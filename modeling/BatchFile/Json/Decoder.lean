import BatchFile.Json.Skip

/-!
# Decoders

A decoder finds a value of a wanted form at the front of a text.  There are decoders for
truth values, words, lists, and records: objects with known members of one kind.  A record
may also be written as the list of its members.  Members with other names are passed over,
a member given twice is a mismatch, and a missing one takes its default if it has one.
The first problem from the left decides.
-/

namespace BatchFile

namespace Json

/-- A decoder: what it finds at the front of a text and what follows it.  It always reads
something. -/
structure Decoder (α : Type) where
  decode : Bytes → Except Fault (α × Bytes)
  length_lt : ∀ {s r : Bytes} {a : α}, decode s = .ok (a, r) → r.length < s.length

/-- The fault of a text whose value, starting with the byte `b`, has not the wanted form:
a value that is well formed as far as it must be read is a mismatch. -/
def wrongForm (b : UInt8) (s : Bytes) : Fault :=
  let fault {α : Type} (r : Except Fault α) : Fault :=
    match r with
    | .ok _ => .mismatch
    | .error e => e
  if b = 0x6E then fault (skipWord (Bytes.ascii "ull") s)
  else if b = 0x74 then fault (skipWord (Bytes.ascii "rue") s)
  else if b = 0x66 then fault (skipWord (Bytes.ascii "alse") s)
  else if b = minus then fault (readNumber s)
  else if isDigit b then fault (readNumber (b :: s))
  else if b = quote then fault (readString s)
  else if b = openList || b = openObject then .mismatch
  else .malformed

/-! ### Truth values and words -/

/-- The truth value at the front of a text without white space there. -/
def readBool : Bytes → Except Fault (Bool × Bytes)
  | [] => .error .endOfText
  | b :: s =>
    if b = 0x74 then (true, ·) <$> skipWord (Bytes.ascii "rue") s
    else if b = 0x66 then (false, ·) <$> skipWord (Bytes.ascii "alse") s
    else .error (wrongForm b s)

/-- The word at the front of a text without white space there. -/
def readWord : Bytes → Except Fault (UInt64 × Bytes)
  | [] => .error .endOfText
  | b :: s =>
    if isDigit b then
      match readNumber (b :: s) with
      | .ok (some n, r) => .ok (UInt64.ofNat n, r)
      | .ok (none, _) => .error .mismatch
      | .error e => .error e
    else .error (wrongForm b s)

theorem length_readBool_lt {s r : Bytes} {a : Bool} (h : readBool s = .ok (a, r)) :
  r.length < s.length
  := by
  have hw {w s' r' : Bytes} {v : Bool}
      (h : ((v, ·) <$> skipWord w s' : Except Fault (Bool × Bytes)) = .ok (a, r')) :
      r'.length ≤ s'.length := by
    cases hs : skipWord w s' with
    | error e => simp [hs, Functor.map, Except.map] at h
    | ok q =>
      have := length_skipWord hs
      simp only [hs, Functor.map, Except.map, Except.ok.injEq, Prod.mk.injEq] at h
      rw [← h.2]
      omega
  cases s with
  | nil => simp [readBool] at h
  | cons b s =>
    simp only [readBool] at h
    split at h
    · have := hw h
      simp only [List.length_cons]
      omega
    split at h
    · have := hw h
      simp only [List.length_cons]
      omega
    · simp at h

theorem length_readWord_lt {s r : Bytes} {a : UInt64} (h : readWord s = .ok (a, r)) :
  r.length < s.length
  := by
  cases s with
  | nil => simp [readWord] at h
  | cons b s =>
    simp only [readWord] at h
    split at h
    · split at h
      · rename_i hn
        cases h
        exact length_readNumber_lt hn
      · simp at h
      · simp at h
    · simp at h

/-- The decoder that first passes over white space. -/
def afterSpace {α : Type} (read : Bytes → Except Fault (α × Bytes))
    (length_lt : ∀ {s r : Bytes} {a : α}, read s = .ok (a, r) → r.length < s.length) :
    Decoder α where
  decode s := read (skipSpace s)
  length_lt {s _ _} h := Nat.lt_of_lt_of_le (length_lt h) (length_skipSpace_le s)

/-- The decoder of truth values. -/
def bool : Decoder Bool :=
  afterSpace readBool length_readBool_lt

/-- The decoder of words: integers without a sign, fraction or exponent. -/
def word : Decoder UInt64 :=
  afterSpace readWord length_readWord_lt

/-! ### Lists -/

/-- What comes next in a list or an object: its end, with what follows, or another item,
with the text from there on. -/
inductive Next where
  | finished (rest : Bytes)
  | item (text : Bytes)

/-- The end of the list or the next element. -/
def nextElement (isFirst : Bool) (s : Bytes) : Except Fault Next :=
  match skipSpace s with
  | [] => .error .endOfText
  | b :: s =>
    if b = closeList then .ok (.finished s)
    else if isFirst then .ok (.item (b :: s))
    else if b = comma then
      match skipSpace s with
      | [] => .error .endOfText
      | b :: s => if b = closeList then .error .malformed else .ok (.item (b :: s))
    else .error .malformed

theorem length_nextElement {isFirst : Bool} {s : Bytes} {n : Next}
    (h : nextElement isFirst s = .ok n) :
  match n with
  | .finished r => r.length < s.length
  | .item r => r.length ≤ s.length
  := by
  have h0 := length_skipSpace_le s
  unfold nextElement at h
  split at h
  · simp at h
  · rename_i b s1 hs
    rw [hs, List.length_cons] at h0
    have h1 := length_skipSpace_le s1
    split at h
    · cases h
      simp only
      omega
    split at h
    · cases h
      simp only [List.length_cons]
      omega
    split at h
    · split at h
      · simp at h
      · rename_i c s2 hc
        rw [hc, List.length_cons] at h1
        split at h
        · simp at h
        · cases h
          simp only [List.length_cons]
          omega
    · simp at h

/-- The elements of a list up to its end, and what follows it. -/
def readElements {α : Type} (d : Decoder α) (isFirst : Bool) (s : Bytes) :
    Except Fault (List α × Bytes) :=
  match hn : nextElement isFirst s with
  | .error e => .error e
  | .ok (.finished r) => .ok ([], r)
  | .ok (.item s') =>
    match hd : d.decode s' with
    | .error e => .error e
    | .ok (a, r) =>
      have : r.length < s.length :=
        Nat.lt_of_lt_of_le (d.length_lt hd) (length_nextElement hn)
      match readElements d false r with
      | .error e => .error e
      | .ok (as, r) => .ok (a :: as, r)
termination_by s.length

theorem length_readElements_lt {α : Type} {d : Decoder α} {isFirst : Bool} {s r : Bytes}
    {as : List α} (h : readElements d isFirst s = .ok (as, r)) :
  r.length < s.length
  := by
  fun_induction readElements d isFirst s generalizing as r with
  | case1 isFirst s e hn => simp at h
  | case2 isFirst s r' hn =>
    cases h
    exact length_nextElement hn
  | case3 isFirst s s' hn e hd => simp at h
  | case4 isFirst s s' hn a r' hd hlt e hr ih => simp at h
  | case5 isFirst s s' hn a r' hd hlt as' r'' hr ih =>
    cases h
    have := ih hr
    omega

/-- The list at the front of a text without white space there. -/
def readList {α : Type} (d : Decoder α) : Bytes → Except Fault (List α × Bytes)
  | [] => .error .endOfText
  | b :: s => if b = openList then readElements d true s else .error (wrongForm b s)

theorem length_readList_lt {α : Type} {d : Decoder α} {s r : Bytes} {as : List α}
    (h : readList d s = .ok (as, r)) :
  r.length < s.length
  := by
  cases s with
  | nil => simp [readList] at h
  | cons b s =>
    simp only [readList] at h
    split at h
    · have := length_readElements_lt h
      simp only [List.length_cons]
      omega
    · simp at h

/-- The decoder of lists. -/
def list {α : Type} (d : Decoder α) : Decoder (List α) :=
  afterSpace (readList d) length_readList_lt

/-! ### Records -/

/-- A member of a record: its name and the value it has when it is missing. -/
structure Member (α : Type) where
  name : String
  default? : Option α

/-- The end of the object or the text after the quotation mark that opens the next key. -/
def nextKey (isFirst : Bool) (s : Bytes) : Except Fault Next :=
  match skipSpace s with
  | [] => .error .endOfText
  | b :: s =>
    if b = closeObject then .ok (.finished s)
    else if isFirst then
      if b = quote then .ok (.item s) else .error .malformed
    else if b = comma then
      match skipSpace s with
      | [] => .error .endOfText
      | b :: s => if b = quote then .ok (.item s) else .error .malformed
    else .error .malformed

/-- What follows the colon that comes next. -/
def skipColon (s : Bytes) : Except Fault Bytes :=
  match skipSpace s with
  | [] => .error .endOfText
  | b :: s => if b = colon then .ok s else .error .malformed

theorem length_nextKey_lt {isFirst : Bool} {s : Bytes} {n : Next}
    (h : nextKey isFirst s = .ok n) :
  match n with
  | .finished r => r.length < s.length
  | .item r => r.length < s.length
  := by
  have h0 := length_skipSpace_le s
  unfold nextKey at h
  split at h
  · simp at h
  · rename_i b s1 hs
    rw [hs, List.length_cons] at h0
    have h1 := length_skipSpace_le s1
    split at h
    · cases h
      simp only
      omega
    split at h
    · split at h
      · cases h
        simp only
        omega
      · simp at h
    split at h
    · split at h
      · simp at h
      · rename_i c s2 hc
        rw [hc, List.length_cons] at h1
        split at h
        · cases h
          simp only
          omega
        · simp at h
    · simp at h

theorem length_skipColon_lt {s r : Bytes} (h : skipColon s = .ok r) :
  r.length < s.length
  := by
  have h0 := length_skipSpace_le s
  unfold skipColon at h
  split at h
  · simp at h
  · rename_i b s1 hs
    rw [hs, List.length_cons] at h0
    split at h
    · cases h
      omega
    · simp at h

/-- The values found so far, by the position of their member. -/
abbrev Found (α : Type) := List (Option α)

/-- The values found after the member with the given key has been read, and what follows
it. -/
def readMember {α : Type} (d : Decoder α) (members : List (Member α)) (found : Found α)
    (key s : Bytes) : Except Fault (Found α × Bytes) :=
  match members.findIdx? fun m => Bytes.ascii m.name = key with
  | none => do
    let s ← skipColon s
    let s ← skipValue s
    return (found, s)
  | some i =>
    if (found[i]?.join).isSome then .error .mismatch
    else do
      let s ← skipColon s
      let (a, s) ← d.decode s
      return (found.set i (some a), s)

theorem length_readMember_lt {α : Type} {d : Decoder α} {members : List (Member α)}
    {found found' : Found α} {key s r : Bytes}
    (h : readMember d members found key s = .ok (found', r)) :
  r.length < s.length
  := by
  unfold readMember at h
  split at h
  · cases hc : skipColon s with
    | error e => simp [hc, bind, Except.bind] at h
    | ok s1 =>
      cases hv : skipValue s1 with
      | error e => simp [hc, hv, bind, Except.bind] at h
      | ok s2 =>
        simp only [hc, hv, bind, Except.bind, pure, Except.pure, Except.ok.injEq,
          Prod.mk.injEq] at h
        have h1 := length_skipColon_lt hc
        have h2 := length_skipValue_le hv
        rw [← h.2]
        omega
  · split at h
    · simp at h
    · cases hc : skipColon s with
      | error e => simp [hc, bind, Except.bind] at h
      | ok s1 =>
        cases hv : d.decode s1 with
        | error e => simp [hc, hv, bind, Except.bind] at h
        | ok p =>
          simp only [hc, hv, bind, Except.bind, pure, Except.pure, Except.ok.injEq,
            Prod.mk.injEq] at h
          have h1 := length_skipColon_lt hc
          have h2 := d.length_lt hv
          rw [← h.2]
          omega

/-- The values found up to the end of the object, and what follows it. -/
def readMembers {α : Type} (d : Decoder α) (members : List (Member α)) (found : Found α)
    (isFirst : Bool) (s : Bytes) : Except Fault (Found α × Bytes) :=
  match hn : nextKey isFirst s with
  | .error e => .error e
  | .ok (.finished r) => .ok (found, r)
  | .ok (.item s') =>
    match hk : readString s' with
    | .error e => .error e
    | .ok (key, s'') =>
      match hm : readMember d members found key s'' with
      | .error e => .error e
      | .ok (found, r) =>
        have : r.length < s.length :=
          Nat.lt_trans (length_readMember_lt hm)
            (Nat.lt_trans (length_readString_lt hk) (length_nextKey_lt hn))
        readMembers d members found false r
termination_by s.length

theorem length_readMembers_lt {α : Type} {d : Decoder α} {members : List (Member α)}
    {found found' : Found α} {isFirst : Bool} {s r : Bytes}
    (h : readMembers d members found isFirst s = .ok (found', r)) :
  r.length < s.length
  := by
  fun_induction readMembers d members found isFirst s with
  | case1 found isFirst s e hn => simp at h
  | case2 found isFirst s r' hn =>
    cases h
    exact length_nextKey_lt hn
  | case3 found isFirst s s' hn e hk => simp at h
  | case4 found isFirst s s' hn key s'' hk e hm => simp at h
  | case5 found isFirst s s' hn key s'' hk found1 r' hm hlt ih =>
    have := ih h
    omega

/-- The values of all members, each found or the default. -/
def complete {α : Type} : List (Member α) → Found α → Except Fault (List α)
  | [], _ => .ok []
  | m :: ms, found =>
    match found.head?.join.or m.default? with
    | none => .error .mismatch
    | some a =>
      match complete ms found.tail with
      | .error e => .error e
      | .ok as => .ok (a :: as)

/-- The values of the members of an object whose opening brace has been read. -/
def readObject {α : Type} (d : Decoder α) (members : List (Member α)) (s : Bytes) :
    Except Fault (List α × Bytes) :=
  match readMembers d members (members.map fun _ => none) true s with
  | .error e => .error e
  | .ok (found, r) =>
    match complete members found with
    | .error e => .error e
    | .ok as => .ok (as, r)

/-- What follows the end of a list, which must come next. -/
def skipListEnd (s : Bytes) : Except Fault Bytes :=
  match skipSpace s with
  | [] => .error .endOfText
  | b :: s => if b = closeList then .ok s else .error .malformed

/-- The values of members written as a list whose opening bracket has been read. -/
def readTuple {α : Type} (d : Decoder α) :
    List (Member α) → Bool → Bytes → Except Fault (List α × Bytes)
  | [], _, s =>
    match skipListEnd s with
    | .error e => .error e
    | .ok r => .ok ([], r)
  | m :: ms, isFirst, s =>
    match nextElement isFirst s with
    | .error e => .error e
    | .ok (.finished r) =>
      match complete (m :: ms) [] with
      | .error e => .error e
      | .ok as => .ok (as, r)
    | .ok (.item s) =>
      match d.decode s with
      | .error e => .error e
      | .ok (a, s) =>
        match readTuple d ms false s with
        | .error e => .error e
        | .ok (as, r) => .ok (a :: as, r)

/-- The record at the front of a text without white space there. -/
def readRecord {α : Type} (d : Decoder α) (members : List (Member α)) :
    Bytes → Except Fault (List α × Bytes)
  | [] => .error .endOfText
  | b :: s =>
    if b = openObject then readObject d members s
    else if b = openList then readTuple d members true s
    else .error (wrongForm b s)

theorem length_readObject_lt {α : Type} {d : Decoder α} {members : List (Member α)}
    {s r : Bytes} {as : List α} (h : readObject d members s = .ok (as, r)) :
  r.length < s.length
  := by
  unfold readObject at h
  split at h
  · simp at h
  · rename_i found r' hm
    split at h
    · simp at h
    · cases h
      exact length_readMembers_lt hm

theorem length_readTuple_lt {α : Type} {d : Decoder α} {members : List (Member α)}
    {isFirst : Bool} {s r : Bytes} {as : List α}
    (h : readTuple d members isFirst s = .ok (as, r)) :
  r.length < s.length
  := by
  induction members generalizing isFirst s as with
  | nil =>
    have h0 := length_skipSpace_le s
    simp only [readTuple, skipListEnd] at h
    split at h
    · simp at h
    · rename_i hr
      cases h
      split at hr
      · simp at hr
      · rename_i b s1 hs
        rw [hs, List.length_cons] at h0
        split at hr
        · cases hr
          omega
        · simp at hr
  | cons m ms ih =>
    simp only [readTuple] at h
    split at h
    · simp at h
    · rename_i r' hn
      split at h
      · simp at h
      · cases h
        exact length_nextElement hn
    · rename_i s1 hn
      have hn : s1.length ≤ s.length := length_nextElement hn
      split at h
      · simp at h
      · rename_i a s2 hd
        have hd := d.length_lt hd
        split at h
        · simp at h
        · rename_i as' r' ht
          cases h
          have := ih ht
          omega

theorem length_readRecord_lt {α : Type} {d : Decoder α} {members : List (Member α)}
    {s r : Bytes} {as : List α} (h : readRecord d members s = .ok (as, r)) :
  r.length < s.length
  := by
  cases s with
  | nil => simp [readRecord] at h
  | cons b s =>
    simp only [readRecord] at h
    split at h
    · have := length_readObject_lt h
      simp only [List.length_cons]
      omega
    split at h
    · have := length_readTuple_lt h
      simp only [List.length_cons]
      omega
    · simp at h

/-- The decoder of records: the values of the members, in the order of the members. -/
def record {α : Type} (d : Decoder α) (members : List (Member α)) : Decoder (List α) :=
  afterSpace (readRecord d members) length_readRecord_lt

/-- The value a decoder finds, as another value. -/
def Decoder.map {α β : Type} (f : α → β) (d : Decoder α) : Decoder β where
  decode s :=
    match d.decode s with
    | .ok (a, r) => .ok (f a, r)
    | .error e => .error e
  length_lt {s r b} h := by
    split at h
    · rename_i a r' hd
      cases h
      exact d.length_lt hd
    · simp at h

/-- The value that a whole text stands for. -/
def parse {α : Type} (d : Decoder α) (s : Bytes) : Except Fault α :=
  match d.decode s with
  | .error e => .error e
  | .ok (a, r) => if skipSpace r = [] then .ok a else .error .malformed

end Json

end BatchFile
