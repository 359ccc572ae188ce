import BatchFile.Json.Lexeme

/-!
# Passing over a value

`Json.skipValue` checks that a well-formed value stands at the front of a text and gives
back what follows it.  Lists and objects may be nested to any depth: the brackets that are
still open are kept in a list, innermost first, and `Json.skipFrom` goes on from any place
between two lexemes.
-/

namespace BatchFile

namespace Json

/-- A kind of bracket that is still open. -/
inductive Bracket where
  | list
  | object
deriving DecidableEq, Repr

/-- A place between two lexemes of a value. -/
inductive Place where
  /-- After a value inside the open brackets. -/
  | afterValue
  /-- Before a value. -/
  | beforeValue
  /-- Right after the innermost bracket was opened. -/
  | opened
deriving DecidableEq, Repr

/-- The order in which places follow one another without a byte being read. -/
def Place.rank : Place → Nat
  | .afterValue => 0
  | .beforeValue => 0
  | .opened => 1

/-- What follows the key of a member and its colon, when the key is next. -/
def skipKey (s : Bytes) : Except Fault Bytes :=
  match skipSpace s with
  | [] => .error .endOfText
  | b :: s =>
    if b = quote then
      match skipString s with
      | .error e => .error e
      | .ok s =>
        match skipSpace s with
        | [] => .error .endOfText
        | b :: s => if b = colon then .ok s else .error .malformed
    else .error .malformed

theorem length_skipKey_lt {s r : Bytes} (h : skipKey s = .ok r) :
  r.length < s.length
  := by
  have h0 := length_skipSpace_le s
  unfold skipKey at h
  split at h
  · simp at h
  · rename_i b s1 h1
    rw [h1] at h0
    split at h
    · split at h
      · simp at h
      · rename_i s2 h2
        have h2 := length_skipString_lt h2
        have h3 := length_skipSpace_le s2
        split at h
        · simp at h
        · rename_i c s4 h4
          rw [h4] at h3
          split at h
          · cases h
            simp only [List.length_cons] at h0 h3
            omega
          · simp at h
    · simp at h

/-- What follows a value that is not a list or an object, starting with the byte `b`. -/
def skipScalar (b : UInt8) (s : Bytes) : Except Fault Bytes :=
  if b = quote then skipString s
  else if b = 0x6E then skipWord (Bytes.ascii "ull") s
  else if b = 0x74 then skipWord (Bytes.ascii "rue") s
  else if b = 0x66 then skipWord (Bytes.ascii "alse") s
  else if b = minus then skipNumber s
  else if isDigit b then skipNumber (b :: s)
  else .error .malformed

theorem length_skipScalar_le {b : UInt8} {s r : Bytes} (h : skipScalar b s = .ok r) :
  r.length ≤ s.length
  := by
  unfold skipScalar at h
  split at h
  · exact Nat.le_of_lt (length_skipString_lt h)
  split at h
  · have := length_skipWord h
    omega
  split at h
  · have := length_skipWord h
    omega
  split at h
  · have := length_skipWord h
    omega
  split at h
  · exact Nat.le_of_lt (length_skipNumber_lt h)
  split at h
  · have := length_skipNumber_lt h
    simp only [List.length_cons] at this
    omega
  · simp at h

/-- A place in a text: between which lexemes, inside which open brackets, and the text
from there on. -/
structure Position where
  place : Place
  brackets : List Bracket
  rest : Bytes

/-- A bound on the number of places that can still follow. -/
def Position.measure (p : Position) : Nat :=
  2 * p.rest.length + p.place.rank

/-- The next place after a value inside a list whose next lexeme starts with `b`. -/
def nextInList (outer : List Bracket) (b : UInt8) (s : Bytes) : Except Fault Position :=
  if b = comma then .ok ⟨.beforeValue, .list :: outer, s⟩
  else if b = closeList then .ok ⟨.afterValue, outer, s⟩
  else .error .malformed

/-- The next place after a value inside an object whose next lexeme starts with `b`. -/
def nextInObject (outer : List Bracket) (b : UInt8) (s : Bytes) : Except Fault Position :=
  if b = comma then do
    let s ← skipKey s
    return ⟨.beforeValue, .object :: outer, s⟩
  else if b = closeObject then .ok ⟨.afterValue, outer, s⟩
  else .error .malformed

/-- The next place before a value that starts with `b`. -/
def nextInValue (brackets : List Bracket) (b : UInt8) (s : Bytes) : Except Fault Position :=
  if b = openList then .ok ⟨.opened, .list :: brackets, s⟩
  else if b = openObject then .ok ⟨.opened, .object :: brackets, s⟩
  else do
    let s ← skipScalar b s
    return ⟨.afterValue, brackets, s⟩

/-- The next place right after a bracket was opened, where a lexeme starts with `b`. -/
def nextInOpened (outer : List Bracket) (bracket : Bracket) (b : UInt8) (s : Bytes) :
    Except Fault Position :=
  match bracket with
  | .list =>
    if b = closeList then .ok ⟨.afterValue, outer, s⟩
    else .ok ⟨.beforeValue, .list :: outer, b :: s⟩
  | .object =>
    if b = closeObject then .ok ⟨.afterValue, outer, s⟩
    else do
      let s ← skipKey (b :: s)
      return ⟨.beforeValue, .object :: outer, s⟩

/-- The next place, or none at the end of the outermost value. -/
def Position.next (p : Position) : Except Fault (Option Position) :=
  match p.place, p.brackets with
  | .afterValue, [] => .ok none
  | place, brackets =>
    match skipSpace p.rest with
    | [] => .error .endOfText
    | b :: s =>
      match place, brackets with
      | .afterValue, .list :: outer => some <$> nextInList outer b s
      | .afterValue, .object :: outer => some <$> nextInObject outer b s
      | .opened, bracket :: outer => some <$> nextInOpened outer bracket b s
      | _, brackets => some <$> nextInValue brackets b s

theorem nextInList_measure_lt {outer : List Bracket} {b : UInt8} {s : Bytes} {q : Position}
    (h : nextInList outer b s = .ok q) :
  q.measure < 2 * (s.length + 1)
  := by
  unfold nextInList at h
  split at h
  · cases h
    simp [Position.measure, Place.rank]
  split at h
  · cases h
    simp [Position.measure, Place.rank]
  · simp at h

theorem nextInObject_measure_lt {outer : List Bracket} {b : UInt8} {s : Bytes} {q : Position}
    (h : nextInObject outer b s = .ok q) :
  q.measure < 2 * (s.length + 1)
  := by
  unfold nextInObject at h
  split at h
  · cases hk : skipKey s with
    | error e => simp [hk, bind, Except.bind] at h
    | ok r =>
      have := length_skipKey_lt hk
      simp only [hk, bind, Except.bind, pure, Except.pure, Except.ok.injEq] at h
      rw [← h]
      simp only [Position.measure, Place.rank]
      omega
  split at h
  · cases h
    simp [Position.measure, Place.rank]
  · simp at h

theorem nextInValue_measure_lt {brackets : List Bracket} {b : UInt8} {s : Bytes}
    {q : Position} (h : nextInValue brackets b s = .ok q) :
  q.measure < 2 * (s.length + 1)
  := by
  unfold nextInValue at h
  split at h
  · cases h
    simp only [Position.measure, Place.rank]
    omega
  split at h
  · cases h
    simp only [Position.measure, Place.rank]
    omega
  · cases hk : skipScalar b s with
    | error e => simp [hk, bind, Except.bind] at h
    | ok r =>
      have := length_skipScalar_le hk
      simp only [hk, bind, Except.bind, pure, Except.pure, Except.ok.injEq] at h
      rw [← h]
      simp only [Position.measure, Place.rank]
      omega

theorem nextInOpened_measure_lt {outer : List Bracket} {bracket : Bracket} {b : UInt8}
    {s : Bytes} {q : Position} (h : nextInOpened outer bracket b s = .ok q) :
  q.measure < 2 * (s.length + 1) + 1
  := by
  unfold nextInOpened at h
  split at h
  · split at h
    · cases h
      simp only [Position.measure, Place.rank]
      omega
    · cases h
      simp only [Position.measure, Place.rank, List.length_cons]
      omega
  · split at h
    · cases h
      simp only [Position.measure, Place.rank]
      omega
    · cases hk : skipKey (b :: s) with
      | error e => simp [hk, bind, Except.bind] at h
      | ok r =>
        have := length_skipKey_lt hk
        simp only [List.length_cons] at this
        simp only [hk, bind, Except.bind, pure, Except.pure, Except.ok.injEq] at h
        rw [← h]
        simp only [Position.measure, Place.rank]
        omega

theorem eq_ok_of_some_map {x : Except Fault Position} {q : Position}
    (h : some <$> x = .ok (some q)) :
  x = .ok q
  := by
  cases x with
  | error e => simp [Functor.map, Except.map] at h
  | ok p =>
    simp only [Functor.map, Except.map, Except.ok.injEq, Option.some.injEq] at h
    rw [h]

/-- Every place is followed by finitely many. -/
theorem next_measure_lt {p q : Position} (h : p.next = .ok (some q)) :
  q.measure < p.measure
  := by
  obtain ⟨place, brackets, rest⟩ := p
  have h0 := length_skipSpace_le rest
  simp only [Position.next] at h
  split at h
  · simp at h
  · split at h
    · simp at h
    · rename_i b s hs
      rw [hs] at h0
      simp only [List.length_cons] at h0
      split at h
      · have := nextInList_measure_lt (eq_ok_of_some_map h)
        simp only [Position.measure, Place.rank] at this ⊢
        omega
      · have := nextInObject_measure_lt (eq_ok_of_some_map h)
        simp only [Position.measure, Place.rank] at this ⊢
        omega
      · have := nextInOpened_measure_lt (eq_ok_of_some_map h)
        simp only [Position.measure, Place.rank] at this ⊢
        omega
      · have := nextInValue_measure_lt (eq_ok_of_some_map h)
        simp only [Position.measure] at this ⊢
        omega

/-- What follows the outermost value when the reading goes on at the given place. -/
def skipFrom (p : Position) : Except Fault Bytes :=
  match h : p.next with
  | .error e => .error e
  | .ok none => .ok p.rest
  | .ok (some q) =>
    have := next_measure_lt h
    skipFrom q
termination_by p.measure

theorem length_skipFrom_le {p : Position} {r : Bytes} (h : skipFrom p = .ok r) :
  2 * r.length ≤ p.measure
  := by
  fun_induction skipFrom p with
  | case1 p e he => simp at h
  | case2 p hp =>
    cases h
    simp [Position.measure]
  | case3 p q hq hlt ih =>
    have := ih h
    omega

/-- What follows the value at the front of the text. -/
def skipValue (s : Bytes) : Except Fault Bytes :=
  skipFrom ⟨.beforeValue, [], s⟩

theorem length_skipValue_le {s r : Bytes} (h : skipValue s = .ok r) :
  r.length ≤ s.length
  := by
  have := length_skipFrom_le h
  simp only [Position.measure, Place.rank] at this
  omega

end Json

end BatchFile
