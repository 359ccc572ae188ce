import BatchFile.Text.Invisible

/-!
# Quoted text

`Text.quoted` writes characters between double quotes so that every one of them can be
seen: the usual control characters, the quote and the backslash get their short escapes,
and any other invisible character its code point in hexadecimal between braces.
-/

namespace BatchFile

namespace Text

/-- The escape of a code point by its number. -/
def codePointEscape (c : Char) : List Char :=
  "\\u\x7b".toList ++ Nat.toDigits 16 c.toNat ++ ['\x7d']

/-- The visible form of one character. -/
def visible (c : Char) : List Char :=
  match c with
  | '\x00' => ['\\', '0']
  | '\t' => ['\\', 't']
  | '\r' => ['\\', 'r']
  | '\n' => ['\\', 'n']
  | '"' => ['\\', '"']
  | '\\' => ['\\', '\\']
  | c => if isInvisible c then codePointEscape c else [c]

/-- The characters in their visible forms between double quotes. -/
def quoted (s : List Char) : String :=
  String.ofList ('"' :: s.flatMap visible ++ ['"'])

end Text

end BatchFile
