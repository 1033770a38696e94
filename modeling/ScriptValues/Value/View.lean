import ScriptValues.Catalogue

namespace ScriptValues

inductive View where
  | integer (n : Int64)
  | boolean (b : Bool)
  | null
  | string (text : Text)
  | array (items : List View)
  | builtin (name : String)
  | error (message : String)

namespace Value

mutual

def view : Value → View
  | integer n => .integer n
  | boolean b => .boolean b
  | null => .null
  | string bytes => .string (Utf8.decode bytes)
  | array items => .array (viewAll items)
  | builtin f => .builtin f.name
  | error fault => .error fault.message

def viewAll : List Value → List View
  | [] => []
  | value :: values => view value :: viewAll values

end

mutual

/-- No function in the value has a name with the bracket that closes the rendering of a name. -/
def PlainNames : Value → Prop
  | builtin f => ')' ∉ f.name.toList
  | array items => AllPlainNames items
  | _ => True

def AllPlainNames : List Value → Prop
  | [] => True
  | value :: values => PlainNames value ∧ AllPlainNames values

end

inductive Textual : Value → Prop
  | integer (n : Int64) : Textual (integer n)
  | boolean (b : Bool) : Textual (boolean b)
  | null : Textual null
  | string (text : Text) : Textual (string (Utf8.encode text))
  | array (items : List Value) (each : ∀ item ∈ items, Textual item) : Textual (array items)
  | builtin (f : Native) (listed : f ∈ Catalogue.functions) : Textual (builtin f)

end Value

end ScriptValues
