import ScriptValues.Value.Basic

namespace ScriptValues.Value

def functionText : Text :=
  "builtin function".toList

mutual

def inspect : Value → Text
  | integer n => Text.integer n.toInt
  | boolean b => Text.boolean b
  | null => "null".toList
  | string bytes => Utf8.decode bytes
  | array items => Text.bracketed (inspectAll items)
  | builtin _ => functionText
  | error fault => ("ERROR: " ++ fault.message).toList

def inspectAll : List Value → List Text
  | [] => []
  | value :: values => inspect value :: inspectAll values

end

theorem inspectAll_eq_map (values : List Value) : inspectAll values = values.map inspect := by
  induction values with
  | nil => rfl
  | cons first values ih => rw [inspectAll, List.map_cons, ih]

theorem inspect_array (items : List Value) :
    (array items).inspect = Text.bracketed (items.map inspect) := by
  rw [inspect, inspectAll_eq_map]

mutual

def debugWith (numbered : Char → Bool) : Value → Text
  | integer n => Text.applied "Integer" (Text.integer n.toInt)
  | boolean b => Text.applied "Boolean" (Text.boolean b)
  | null => "Null".toList
  | string bytes => Text.applied "Str" (Text.quoteWith numbered (Utf8.decode bytes))
  | array items => Text.applied "Array" (Text.bracketed (debugAllWith numbered items))
  | builtin f => Text.applied "Builtin" f.name.toList
  | error fault => Text.applied "Error" (Text.quoteWith numbered fault.message.toList)

def debugAllWith (numbered : Char → Bool) : List Value → List Text
  | [] => []
  | value :: values => debugWith numbered value :: debugAllWith numbered values

end

theorem debugAllWith_eq_map (numbered : Char → Bool) (values : List Value) :
    debugAllWith numbered values = values.map (debugWith numbered) := by
  induction values with
  | nil => rfl
  | cons first values ih => rw [debugAllWith, List.map_cons, ih]

def debug (value : Value) : Text :=
  debugWith Text.writtenByNumber value

theorem debug_array (items : List Value) :
    (array items).debug = Text.applied "Array" (Text.bracketed (items.map debug)) := by
  rw [debug, debugWith, debugAllWith_eq_map]
  rfl

def debugBytes (bytes : List UInt8) : Text :=
  Text.bracketed (bytes.map fun byte => Text.natural byte.toNat)

def debugPayload? : Value → Option Text
  | string bytes => some (debugBytes bytes)
  | array items => some (Text.bracketed (items.map debug))
  | builtin f => some f.debug
  | error fault => some fault.debug
  | _ => none

end ScriptValues.Value
