/-! Texts as they stand in objects for programs: between double quotes, with a backslash before a
quote or a backslash, and control characters by their number. -/
namespace JvmAttach.Text

def hexDigits : List Char := "0123456789abcdef".toList

def nibble (n : Nat) : Char := hexDigits.getD (n % 16) '0'

def quotedChar (c : Char) : List Char :=
  if c = '"' ∨ c = '\\' then ['\\', c]
  else if c.toNat < 0x20 then
    ['\\', 'u', '0', '0', nibble (c.toNat / 16), nibble c.toNat]
  else [c]

def quoted (s : String) : String :=
  String.ofList ('"' :: s.toList.flatMap quotedChar ++ ['"'])

example : quoted "a\"b\n" = "\"a\\\"b\\u000a\"" := by decide +kernel

end JvmAttach.Text
