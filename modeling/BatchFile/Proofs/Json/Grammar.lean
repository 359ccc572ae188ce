import BatchFile.Json.Lexeme

/-!
# The grammar of JSON

What a JSON text is, apart from how it is read.  A value is a word, a number, a string, a list or
an object; lists and objects are derived together with the values in them, to any depth
(`Json.Derives`).  For the keys of members it is also said what they stand for (`Json.Spells`), and
for an object which entries it has (`Json.ObjectText`).
-/

namespace BatchFile

namespace Json

/-! ### Lexemes -/

/-- White space. -/
def Spaces (w : Bytes) : Prop :=
  ∀ b ∈ w, isSpace b = true

/-- One or more digits. -/
structure Digits (ds : Bytes) : Prop where
  ne_nil : ds ≠ []
  isDigit_of_mem : ∀ b ∈ ds, isDigit b = true

/-- The integer part of a number, which has no leading zeros. -/
inductive IntegerText : Bytes → Prop where
  | zero : IntegerText [0x30]
  | digits {b : UInt8} {ds : Bytes} (hb : b ≠ 0x30) (h : Digits (b :: ds)) : IntegerText (b :: ds)

/-- The fraction of a number, if it has one. -/
inductive FractionText : Bytes → Prop where
  | none : FractionText []
  | digits {ds : Bytes} (h : Digits ds) : FractionText (point :: ds)

/-- The exponent of a number, if it has one. -/
inductive ExponentText : Bytes → Prop where
  | none : ExponentText []
  | unsigned {mark : UInt8} {ds : Bytes} (hm : isExponentMark mark = true) (h : Digits ds) :
    ExponentText (mark :: ds)
  | signed {mark sign : UInt8} {ds : Bytes} (hm : isExponentMark mark = true)
    (hs : sign = plus ∨ sign = minus) (h : Digits ds) : ExponentText (mark :: sign :: ds)

/-- A number without a sign. -/
inductive UnsignedText : Bytes → Prop where
  | mk {integer fraction exponent : Bytes} (hi : IntegerText integer) (hf : FractionText fraction)
    (he : ExponentText exponent) : UnsignedText (integer ++ (fraction ++ exponent))

/-- The characters of a string, some of them escaped. -/
inductive Characters : Bytes → Prop where
  | nil : Characters []
  | plain {b : UInt8} {cs : Bytes} (hq : b ≠ quote) (hb : b ≠ backslash) (hc : ¬ b < 0x20)
    (h : Characters cs) : Characters (b :: cs)
  | short {e : UInt8} {cs : Bytes} (he : (shortEscape? e).isSome = true) (h : Characters cs) :
    Characters (backslash :: e :: cs)
  | numbered {a b c d : UInt8} {cs : Bytes} (hn : (hexValue4? a b c d).isSome = true)
    (h : Characters cs) : Characters (backslash :: letterU :: a :: b :: c :: d :: cs)

/-- The characters of a string and the bytes that they stand for; surrogates come in pairs. -/
inductive Spells : Bytes → Bytes → Prop where
  | nil : Spells [] []
  | plain {b : UInt8} {cs contents : Bytes} (hq : b ≠ quote) (hb : b ≠ backslash)
    (hc : ¬ b < 0x20) (h : Spells cs contents) : Spells (b :: cs) (b :: contents)
  | short {e c : UInt8} {cs contents : Bytes} (he : shortEscape? e = some c)
    (h : Spells cs contents) : Spells (backslash :: e :: cs) (c :: contents)
  | single {a b c d : UInt8} {n : Nat} {cs contents : Bytes} (hn : hexValue4? a b c d = some n)
    (hl : isLowSurrogate n = false) (hh : isHighSurrogate n = false) (h : Spells cs contents) :
    Spells (backslash :: letterU :: a :: b :: c :: d :: cs) (charBytes n ++ contents)
  | pair {a b c d a' b' c' d' : UInt8} {n m : Nat} {cs contents : Bytes}
    (hn : hexValue4? a b c d = some n) (hh : isHighSurrogate n = true)
    (hm : hexValue4? a' b' c' d' = some m) (hl : isLowSurrogate m = true)
    (h : Spells cs contents) :
    Spells (backslash :: letterU :: a :: b :: c :: d
        :: backslash :: letterU :: a' :: b' :: c' :: d' :: cs)
      (charBytes (surrogatePair n m) ++ contents)

/-! ### Values -/

/-- The parts of a text that values are derived with. -/
inductive Part where
  | value
  /-- The elements of a list, one or more. -/
  | elements
  /-- The members of an object, one or more. -/
  | members

/-- The texts of values, and of elements and members with the white space and the commas between
them. -/
inductive Derives : Part → Bytes → Prop where
  | null : Derives .value (Bytes.ascii "null")
  | yes : Derives .value (Bytes.ascii "true")
  | no : Derives .value (Bytes.ascii "false")
  | number {n : Bytes} (h : UnsignedText n) : Derives .value n
  | negative {n : Bytes} (h : UnsignedText n) : Derives .value (minus :: n)
  | string {cs : Bytes} (h : Characters cs) : Derives .value (quote :: (cs ++ [quote]))
  | emptyList {w : Bytes} (hw : Spaces w) : Derives .value (openList :: (w ++ [closeList]))
  | list {es : Bytes} (h : Derives .elements es) : Derives .value (openList :: (es ++ [closeList]))
  | emptyObject {w : Bytes} (hw : Spaces w) : Derives .value (openObject :: (w ++ [closeObject]))
  | object {ms : Bytes} (h : Derives .members ms) :
    Derives .value (openObject :: (ms ++ [closeObject]))
  | element {w v w' : Bytes} (hw : Spaces w) (hv : Derives .value v) (hw' : Spaces w') :
    Derives .elements (w ++ (v ++ w'))
  | elements {w v w' es : Bytes} (hw : Spaces w) (hv : Derives .value v) (hw' : Spaces w')
    (h : Derives .elements es) : Derives .elements (w ++ (v ++ (w' ++ comma :: es)))
  | member {w k w₁ w₂ v w' : Bytes} (hw : Spaces w) (hk : Characters k) (hw₁ : Spaces w₁)
    (hw₂ : Spaces w₂) (hv : Derives .value v) (hw' : Spaces w') :
    Derives .members (w ++ quote :: (k ++ quote :: (w₁ ++ colon :: (w₂ ++ (v ++ w')))))
  | members {w k w₁ w₂ v w' ms : Bytes} (hw : Spaces w) (hk : Characters k) (hw₁ : Spaces w₁)
    (hw₂ : Spaces w₂) (hv : Derives .value v) (hw' : Spaces w') (h : Derives .members ms) :
    Derives .members
      (w ++ quote :: (k ++ quote :: (w₁ ++ colon :: (w₂ ++ (v ++ (w' ++ comma :: ms))))))

/-- A well-formed value. -/
abbrev WellFormed (v : Bytes) : Prop := Derives .value v

/-! ### Objects and their entries -/

/-- An entry of an object: what the key stands for, and the text of the value. -/
abbrev Entry := Bytes × Bytes

/-- The members of an object with the given entries, one or more. -/
inductive MembersText : List Entry → Bytes → Prop where
  | last {w k key w₁ w₂ v w' : Bytes} (hw : Spaces w) (hk : Spells k key) (hw₁ : Spaces w₁)
    (hw₂ : Spaces w₂) (hw' : Spaces w') :
    MembersText [(key, v)]
      (w ++ quote :: (k ++ quote :: (w₁ ++ colon :: (w₂ ++ (v ++ w')))))
  | cons {w k key w₁ w₂ v w' ms : Bytes} {es : List Entry} (hw : Spaces w) (hk : Spells k key)
    (hw₁ : Spaces w₁) (hw₂ : Spaces w₂) (hw' : Spaces w') (h : MembersText es ms) :
    MembersText ((key, v) :: es)
      (w ++ quote :: (k ++ quote :: (w₁ ++ colon :: (w₂ ++ (v ++ (w' ++ comma :: ms))))))

/-- An object with the given entries. -/
inductive ObjectText : List Entry → Bytes → Prop where
  | empty {w : Bytes} (hw : Spaces w) : ObjectText [] (openObject :: (w ++ [closeObject]))
  | members {es : List Entry} {ms : Bytes} (h : MembersText es ms) :
    ObjectText es (openObject :: (ms ++ [closeObject]))

end Json

end BatchFile
