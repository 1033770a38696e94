namespace ScriptValues

abbrev Text := List Char

namespace Text

def natural (n : Nat) : Text :=
  Nat.toDigits 10 n

def integer (z : Int) : Text :=
  if z < 0 then '-' :: natural z.natAbs else natural z.natAbs

def hex (n : Nat) : Text :=
  Nat.toDigits 16 n

def paddedHex (width n : Nat) : Text :=
  (hex n).leftpad width '0'

def boolean : Bool → Text
  | true => "true".toList
  | false => "false".toList

def commaSeparated : List Text → Text
  | [] => []
  | [part] => part
  | part :: next :: parts => part ++ ',' :: ' ' :: commaSeparated (next :: parts)

def bracketed (parts : List Text) : Text :=
  '[' :: (commaSeparated parts ++ [']'])

def applied (head : String) (body : Text) : Text :=
  head.toList ++ '(' :: (body ++ [')'])

def record (head : String) (fields : List (String × Text)) : Text :=
  head.toList ++ " \x7b ".toList ++
    commaSeparated (fields.map fun (field, value) => field.toList ++ ':' :: ' ' :: value) ++
    " \x7d".toList

end Text

end ScriptValues
