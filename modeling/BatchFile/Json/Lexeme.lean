import BatchFile.Bytes

/-!
# The lexemes of JSON

A JSON text is a byte string in UTF-8, read from left to right.  Each scanner here gets the
text from some place on and gives back what follows the lexeme.  `skipString` passes over a
string without looking at what its escapes stand for, `readString` decodes them;
`skipNumber` passes over a number of any size, `readNumber` finds its value.
-/

namespace BatchFile

namespace Json

/-- Why a text does not stand for a value of the wanted form. -/
inductive Fault where
  /-- The text ends too early. -/
  | endOfText
  /-- The text is not JSON, or goes on after the value. -/
  | malformed
  /-- The value has another form. -/
  | mismatch
deriving DecidableEq, Repr

/-- The quotation mark. -/
abbrev quote : UInt8 := 0x22
/-- The backslash. -/
abbrev backslash : UInt8 := 0x5C
/-- The comma. -/
abbrev comma : UInt8 := 0x2C
/-- The colon. -/
abbrev colon : UInt8 := 0x3A
/-- The bracket that opens a list. -/
abbrev openList : UInt8 := 0x5B
/-- The bracket that closes a list. -/
abbrev closeList : UInt8 := 0x5D
/-- The brace that opens an object. -/
abbrev openObject : UInt8 := 0x7B
/-- The brace that closes an object. -/
abbrev closeObject : UInt8 := 0x7D
/-- The minus sign. -/
abbrev minus : UInt8 := 0x2D
/-- The plus sign. -/
abbrev plus : UInt8 := 0x2B
/-- The decimal point. -/
abbrev point : UInt8 := 0x2E

/-! ### White space and words -/

/-- Whether a byte is white space. -/
def isSpace (b : UInt8) : Bool :=
  b = 0x20 || b = 0x09 || b = 0x0A || b = 0x0D

/-- The text without the white space at its front. -/
def skipSpace (s : Bytes) : Bytes :=
  s.dropWhile isSpace

/-- What follows the given word. -/
def skipWord : Bytes → Bytes → Except Fault Bytes
  | [], s => .ok s
  | _ :: _, [] => .error .endOfText
  | w :: ws, b :: s => if b = w then skipWord ws s else .error .malformed

/-! ### Numbers -/

/-- Whether a byte is a decimal digit. -/
def isDigit (b : UInt8) : Bool :=
  0x30 ≤ b && b ≤ 0x39

/-- Whether a byte marks an exponent. -/
def isExponentMark (b : UInt8) : Bool :=
  b = 0x65 || b = 0x45

/-- The text without the digits at its front. -/
def skipDigits (s : Bytes) : Bytes :=
  s.dropWhile isDigit

/-- The text without a sign at its front. -/
def skipSign : Bytes → Bytes
  | [] => []
  | b :: s => if b = plus || b = minus then s else b :: s

/-- What follows one or more digits. -/
def skipSomeDigits : Bytes → Except Fault Bytes
  | [] => .error .malformed
  | b :: s => if isDigit b then .ok (skipDigits s) else .error .malformed

/-- What follows an exponent, if there is one. -/
def skipExponent : Bytes → Except Fault Bytes
  | [] => .ok []
  | b :: s => if isExponentMark b then skipSomeDigits (skipSign s) else .ok (b :: s)

/-- What follows a fraction and an exponent, as far as there are any. -/
def skipFraction : Bytes → Except Fault Bytes
  | [] => .ok []
  | b :: s =>
    if b = point then
      match skipSomeDigits s with
      | .ok s => skipExponent s
      | .error e => .error e
    else skipExponent (b :: s)

/-- Whether a text starts with a digit. -/
def startsWithDigit : Bytes → Bool
  | [] => false
  | b :: _ => isDigit b

/-- What follows a number without a sign.  A number that starts with zero has no other
digit before the point. -/
def skipNumber : Bytes → Except Fault Bytes
  | [] => .error .malformed
  | b :: s =>
    if b = 0x30 then
      if startsWithDigit s then .error .malformed else skipFraction s
    else if isDigit b then skipFraction (skipDigits s)
    else .error .malformed

/-! ### Values of numbers -/

/-- The value of a digit. -/
def digitValue (b : UInt8) : Nat :=
  b.toNat - 0x30

/-- The significand of a number while its digits are read: a word, and the power of ten it
is to be multiplied by. -/
structure Significand where
  value : Nat
  exponent : Int

/-- The largest word. -/
def maxWord : Nat := UInt64.size - 1

/-- The significand after the given digits of the integer part; once a digit does not fit,
it and those after it only count. -/
def Significand.addInteger (n : Significand) : Bytes → Significand
  | [] => n
  | d :: ds =>
    if n.value * 10 + digitValue d ≤ maxWord then
      addInteger { n with value := n.value * 10 + digitValue d } ds
    else { n with exponent := n.exponent + (ds.length + 1 : Nat) }

/-- The significand after the given digits behind the point; once a digit does not fit, it
and those after it are dropped. -/
def Significand.addFraction (n : Significand) : Bytes → Significand
  | [] => n
  | d :: ds =>
    if n.value * 10 + digitValue d ≤ maxWord then
      addFraction ⟨n.value * 10 + digitValue d, n.exponent - 1⟩ ds
    else n

/-- The nearest number with at most 53 binary digits, the even one of two that are equally
near. -/
def roundTo53 (n : Nat) : Nat :=
  if n < 1 <<< 53 then n
  else
    let unit := 1 <<< (n.log2 - 52)
    let low := n / unit * unit
    if 2 * (n - low) < unit || 2 * (n - low) = unit && n / unit % 2 = 0 then low
    else low + unit

/-- Whether the product of the significand and its power of ten, computed with 53 binary
digits, is too large for a binary floating-point number of 64 bits. -/
def Significand.overflows (n : Significand) : Bool :=
  n.value ≠ 0 && 0 ≤ n.exponent &&
    (308 < n.exponent
      || (1 <<< 1024) - (1 <<< 970) ≤ roundTo53 n.value * roundTo53 (Nat.pow 10 n.exponent.toNat))

/-- The digits at the front of a text. -/
def digits (s : Bytes) : Bytes :=
  s.takeWhile isDigit

/-- The value of a list of digits. -/
def digitsValue (ds : Bytes) : Nat :=
  ds.foldl (fun n d => n * 10 + digitValue d) 0

/-- The digits at the front of a text, which must be there, and what follows them. -/
def readSomeDigits (s : Bytes) : Except Fault (Bytes × Bytes) :=
  match s with
  | [] => .error .endOfText
  | b :: _ => if isDigit b then .ok (digits s, skipDigits s) else .error .malformed

/-- The value of an exponent, zero if there is none, and what follows it. -/
def readExponent : Bytes → Except Fault (Option Int × Bytes)
  | [] => .ok (none, [])
  | b :: s =>
    if isExponentMark b then
      match readSomeDigits (skipSign s) with
      | .ok (ds, rest) =>
        .ok (some (if s.head? = some minus then -(digitsValue ds : Int) else digitsValue ds),
          rest)
      | .error e => .error e
    else .ok (none, b :: s)

/-- The digits behind the point, if there is one, and what follows them. -/
def readFraction : Bytes → Except Fault (Option Bytes × Bytes)
  | [] => .ok (none, [])
  | b :: s =>
    if b = point then
      match readSomeDigits s with
      | .ok (ds, rest) => .ok (some ds, rest)
      | .error e => .error e
    else .ok (none, b :: s)

/-- The integer digits of a number and what follows them. -/
def readInteger (s : Bytes) : Except Fault (Bytes × Bytes) :=
  match readSomeDigits s with
  | .ok (ds, rest) =>
    if ds.head? = some 0x30 && ds.length ≠ 1 then .error .malformed else .ok (ds, rest)
  | .error e => .error e

/-- The value of a number with the given parts if it is an integer and a word.  A number
too large for floating point is malformed. -/
def numberValue (whole : Bytes) (fraction : Option Bytes) (power : Option Int) :
    Except Fault (Option Nat) :=
  let n := (Significand.addInteger ⟨0, 0⟩ whole).addFraction (fraction.getD [])
  if Significand.overflows ⟨n.value, n.exponent + power.getD 0⟩ then .error .malformed
  else if fraction = none && power = none && digitsValue whole ≤ maxWord then
    .ok (some (digitsValue whole))
  else .ok none

/-- The value of a number without a sign, if it is an integer and a word, and what follows
it. -/
def readNumber (s : Bytes) : Except Fault (Option Nat × Bytes) := do
  let (whole, s) ← readInteger s
  let (fraction, s) ← readFraction s
  let (power, s) ← readExponent s
  let value ← numberValue whole fraction power
  return (value, s)

/-! ### Strings -/

/-- The value of a hexadecimal digit. -/
def hexValue? (b : UInt8) : Option Nat :=
  if isDigit b then some (b.toNat - 0x30)
  else if 0x61 ≤ b && b ≤ 0x66 then some (b.toNat - 0x61 + 10)
  else if 0x41 ≤ b && b ≤ 0x46 then some (b.toNat - 0x41 + 10)
  else none

/-- The number written with four hexadecimal digits. -/
def hexValue4? (a b c d : UInt8) : Option Nat := do
  let a ← hexValue? a
  let b ← hexValue? b
  let c ← hexValue? c
  let d ← hexValue? d
  return ((a * 16 + b) * 16 + c) * 16 + d

/-- The letter that starts an escape by number. -/
abbrev letterU : UInt8 := 0x75

/-- The byte that a backslash and the given letter stand for. -/
def shortEscape? (b : UInt8) : Option UInt8 :=
  if b = quote || b = backslash || b = 0x2F then some b
  else if b = 0x62 then some 0x08
  else if b = 0x66 then some 0x0C
  else if b = 0x6E then some 0x0A
  else if b = 0x72 then some 0x0D
  else if b = 0x74 then some 0x09
  else none

/-- What follows a string whose opening quotation mark has been read. -/
def skipString : Bytes → Except Fault Bytes
  | [] => .error .endOfText
  | b :: s =>
    if b = quote then .ok s
    else if b = backslash then
      match s with
      | [] => .error .endOfText
      | e :: s =>
        if e = letterU then
          match s with
          | a :: b :: c :: d :: s =>
            if (hexValue4? a b c d).isSome then skipString s else .error .malformed
          | _ => .error .endOfText
        else if (shortEscape? e).isSome then skipString s
        else .error .malformed
    else if b < 0x20 then .error .malformed
    else skipString s

/-- Whether a number is the first half of a surrogate pair. -/
def isHighSurrogate (n : Nat) : Bool :=
  0xD800 ≤ n && n ≤ 0xDBFF

/-- Whether a number is the second half of a surrogate pair. -/
def isLowSurrogate (n : Nat) : Bool :=
  0xDC00 ≤ n && n ≤ 0xDFFF

/-- The code point of a surrogate pair. -/
def surrogatePair (high low : Nat) : Nat :=
  0x10000 + (high - 0xD800) * 0x400 + (low - 0xDC00)

/-- The bytes of the character with the given code point. -/
def charBytes (n : Nat) : Bytes :=
  String.utf8EncodeChar (Char.ofNat n)

/-- The contents of a string after the given bytes. -/
def prepend (front : Bytes) : Except Fault (Bytes × Bytes) → Except Fault (Bytes × Bytes)
  | .ok (contents, rest) => .ok (front ++ contents, rest)
  | .error e => .error e

/-- The contents of a string whose opening quotation mark has been read, and what follows
it.  Surrogates must come in pairs. -/
def readString : Bytes → Except Fault (Bytes × Bytes)
  | [] => .error .endOfText
  | b :: s =>
    if b = quote then .ok ([], s)
    else if b = backslash then
      match s with
      | [] => .error .endOfText
      | e :: s =>
        if e = letterU then
          match s with
          | a :: b :: c :: d :: s =>
            match hexValue4? a b c d with
            | none => .error .malformed
            | some n =>
              if isLowSurrogate n then .error .malformed
              else if isHighSurrogate n then
                match s with
                | [] => .error .endOfText
                | [b] => if b = backslash then .error .endOfText else .error .malformed
                | b :: u :: s =>
                  if b = backslash && u = letterU then
                    match s with
                    | a :: b :: c :: d :: s =>
                      match hexValue4? a b c d with
                      | none => .error .malformed
                      | some m =>
                        if isLowSurrogate m then
                          prepend (charBytes (surrogatePair n m)) (readString s)
                        else .error .malformed
                    | _ => .error .endOfText
                  else .error .malformed
              else prepend (charBytes n) (readString s)
          | _ => .error .endOfText
        else
          match shortEscape? e with
          | some c => prepend [c] (readString s)
          | none => .error .malformed
    else if b < 0x20 then .error .malformed
    else prepend [b] (readString s)

/-! ### Scanners never give back more than they got -/

theorem length_dropWhile_le (p : UInt8 → Bool) (s : Bytes) :
  (s.dropWhile p).length ≤ s.length
  := (List.dropWhile_sublist p).length_le

theorem length_skipSpace_le (s : Bytes) :
  (skipSpace s).length ≤ s.length
  := length_dropWhile_le isSpace s

theorem length_skipWord {w s r : Bytes} (h : skipWord w s = .ok r) :
  r.length + w.length = s.length
  := by
  induction w generalizing s with
  | nil => simp_all [skipWord]
  | cons a w ih =>
    cases s with
    | nil => simp [skipWord] at h
    | cons b s =>
      rw [skipWord] at h
      split at h
      · have := ih h
        simp only [List.length_cons]
        omega
      · simp at h

theorem length_skipSign_le (s : Bytes) :
  (skipSign s).length ≤ s.length
  := by
  cases s with
  | nil => simp [skipSign]
  | cons b s =>
    simp only [skipSign]
    split <;> simp

theorem length_skipSomeDigits_lt {s r : Bytes} (h : skipSomeDigits s = .ok r) :
  r.length < s.length
  := by
  cases s with
  | nil => simp [skipSomeDigits] at h
  | cons b s =>
    simp only [skipSomeDigits] at h
    split at h
    · cases h
      have := length_dropWhile_le isDigit s
      simp only [skipDigits, List.length_cons]
      omega
    · simp at h

theorem length_skipExponent_le {s r : Bytes} (h : skipExponent s = .ok r) :
  r.length ≤ s.length
  := by
  cases s with
  | nil => simp_all [skipExponent]
  | cons b s =>
    simp only [skipExponent] at h
    split at h
    · have h1 := length_skipSomeDigits_lt h
      have h2 := length_skipSign_le s
      simp only [List.length_cons]
      omega
    · cases h
      simp

theorem length_skipFraction_le {s r : Bytes} (h : skipFraction s = .ok r) :
  r.length ≤ s.length
  := by
  cases s with
  | nil => simp_all [skipFraction]
  | cons b s =>
    simp only [skipFraction] at h
    split at h
    · split at h
      · rename_i h1
        have h1 := length_skipSomeDigits_lt h1
        have h2 := length_skipExponent_le h
        simp only [List.length_cons]
        omega
      · simp at h
    · exact length_skipExponent_le h

theorem length_skipNumber_lt {s r : Bytes} (h : skipNumber s = .ok r) :
  r.length < s.length
  := by
  cases s with
  | nil => simp [skipNumber] at h
  | cons b s =>
    simp only [skipNumber] at h
    split at h
    · split at h
      · simp at h
      · have := length_skipFraction_le h
        simp only [List.length_cons]
        omega
    · split at h
      · have h1 := length_skipFraction_le h
        have h2 := length_dropWhile_le isDigit s
        simp only [skipDigits] at h1
        simp only [List.length_cons]
        omega
      · simp at h

theorem length_readSomeDigits_lt {s ds r : Bytes} (h : readSomeDigits s = .ok (ds, r)) :
  r.length < s.length
  := by
  cases s with
  | nil => simp [readSomeDigits] at h
  | cons b s =>
    simp only [readSomeDigits] at h
    split at h
    · rename_i hb
      cases h
      have := length_dropWhile_le isDigit s
      simp only [skipDigits, List.dropWhile_cons, hb, if_true, List.length_cons]
      omega
    · simp at h

theorem length_readExponent_le {s r : Bytes} {n : Option Int}
    (h : readExponent s = .ok (n, r)) :
  r.length ≤ s.length
  := by
  cases s with
  | nil => simp_all [readExponent]
  | cons b s =>
    simp only [readExponent] at h
    split at h
    · split at h
      · rename_i h1
        cases h
        have h1 := length_readSomeDigits_lt h1
        have h2 := length_skipSign_le s
        simp only [List.length_cons]
        omega
      · simp at h
    · cases h
      simp

theorem length_readFraction_le {s r : Bytes} {ds : Option Bytes}
    (h : readFraction s = .ok (ds, r)) :
  r.length ≤ s.length
  := by
  cases s with
  | nil => simp_all [readFraction]
  | cons b s =>
    simp only [readFraction] at h
    split at h
    · split at h
      · rename_i h1
        cases h
        have h1 := length_readSomeDigits_lt h1
        simp only [List.length_cons]
        omega
      · simp at h
    · cases h
      simp

theorem length_readInteger_lt {s ds r : Bytes} (h : readInteger s = .ok (ds, r)) :
  r.length < s.length
  := by
  unfold readInteger at h
  split at h
  · rename_i h0
    split at h
    · simp at h
    · cases h
      exact length_readSomeDigits_lt h0
  · simp at h

theorem length_readNumber_lt {s r : Bytes} {n : Option Nat} (h : readNumber s = .ok (n, r)) :
  r.length < s.length
  := by
  unfold readNumber at h
  cases h1 : readInteger s with
  | error e => simp [h1, bind, Except.bind] at h
  | ok p =>
    cases h2 : readFraction p.2 with
    | error e => simp [h1, h2, bind, Except.bind] at h
    | ok q =>
      cases h3 : readExponent q.2 with
      | error e => simp [h1, h2, h3, bind, Except.bind] at h
      | ok u =>
        cases h4 : numberValue p.1 q.1 u.1 with
        | error e => simp [h1, h2, h3, h4, bind, Except.bind] at h
        | ok v =>
          simp only [h1, h2, h3, h4, bind, Except.bind, pure, Except.pure, Except.ok.injEq,
            Prod.mk.injEq] at h
          rw [← h.2]
          have h1 := length_readInteger_lt h1
          have h2 := length_readFraction_le h2
          have h3 := length_readExponent_le h3
          omega

theorem length_skipString_lt {s r : Bytes} (h : skipString s = .ok r) :
  r.length < s.length
  := by
  fun_induction skipString s <;> simp_all <;> omega

theorem prepend_eq_ok {front contents rest : Bytes} {x : Except Fault (Bytes × Bytes)}
    (h : prepend front x = .ok (contents, rest)) :
  ∃ tail, x = .ok (tail, rest)
  := by
  cases x with
  | error e => simp [prepend] at h
  | ok p =>
    obtain ⟨tail, rest'⟩ := p
    simp only [prepend, Except.ok.injEq, Prod.mk.injEq] at h
    exact ⟨tail, by rw [h.2]⟩

theorem length_readString_lt {s contents r : Bytes} (h : readString s = .ok (contents, r)) :
  r.length < s.length
  := by
  fun_induction readString s generalizing contents <;> try (simp at h; done)
  · simp_all
  all_goals
    obtain ⟨tail, ht⟩ := prepend_eq_ok h
    rename_i ih
    have := ih ht
    simp only [List.length_cons]
    omega

end Json

end BatchFile
