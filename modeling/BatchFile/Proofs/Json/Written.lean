import BatchFile.Json.Writer
import BatchFile.Proofs.Json.Record

/-!
# Written lists and objects

What is written as an object, on one line or spread over several, is the text of an object with the
written members as its entries (`Json.objectText_writeObject`, `Json.objectText_writeObjectSpread`).
A list is read back from the texts of its elements (`Json.list_finds`).
-/

namespace BatchFile

namespace Json

/-! ### Objects -/

section Object

variable {s b i g : Bytes} {ms : List (String × Bytes)}

/-- Whether a character needs no escape. -/
def isPlain (c : UInt8) : Bool :=
  c ≠ quote && c ≠ backslash && !(c < 0x20)

/-- Characters that need no escapes. -/
def Plain (s : Bytes) : Prop :=
  s.all isPlain = true

instance (s : Bytes) : Decidable (Plain s) :=
  inferInstanceAs (Decidable (s.all isPlain = true))

theorem Plain.spells (h : Plain s) :
  Spells s s
  := by
  induction s with
  | nil => exact .nil
  | cons c s ih =>
    rw [Plain, List.all_cons, Bool.and_eq_true] at h
    obtain ⟨hc, hs⟩ := h
    simp only [isPlain, Bool.and_eq_true, Bool.not_eq_true', decide_eq_true_eq,
      decide_eq_false_iff_not] at hc
    exact .plain hc.1.1 hc.1.2 hc.2 (ih hs)

/-- The entries of an object with the given members. -/
def entriesOf (ms : List (String × Bytes)) : List Entry :=
  ms.map fun m => (Bytes.ascii m.1, m.2)

/-- A member with an indent before it and a gap behind the colon. -/
def writeMember (i g : Bytes) (m : String × Bytes) : Bytes :=
  i ++ (writeName m.1 ++ colon :: (g ++ m.2))

/-- Written members, with a line break before and behind each of them. -/
theorem membersText_separated (hb : Spaces b) (hi : Spaces i) (hg : Spaces g) (hne : ms ≠ [])
    (hp : ∀ m ∈ ms, Plain (Bytes.ascii m.1)) :
  MembersText (entriesOf ms) (b ++ (separated (comma :: b) (ms.map (writeMember i g)) ++ b))
  := by
  have hbi : Spaces (b ++ i) := fun c hc => (List.mem_append.mp hc).elim (hb c) (hi c)
  induction ms with
  | nil => exact (hne rfl).elim
  | cons m ms ih =>
    rw [List.forall_mem_cons] at hp
    cases ms with
    | nil =>
      have ht := MembersText.last (v := m.2) hbi hp.1.spells spaces_nil hg hb
      simpa [entriesOf, separated, writeMember, writeName, quote] using ht
    | cons m' ms =>
      have ht := MembersText.cons (v := m.2) hbi hp.1.spells spaces_nil hg spaces_nil
        (ih nofun hp.2)
      simpa [entriesOf, separated, writeMember, writeName, quote] using ht

theorem objectText_separated (hb : Spaces b) (hi : Spaces i) (hg : Spaces g)
    (hp : ∀ m ∈ ms, Plain (Bytes.ascii m.1)) :
  ObjectText (entriesOf ms)
    (openObject :: (b ++ (separated (comma :: b) (ms.map (writeMember i g)) ++ b)
      ++ [closeObject]))
  := by
  cases ms with
  | nil =>
    apply ObjectText.empty
    exact fun c hc => (List.mem_append.mp hc).elim (hb c) (hb c)
  | cons m ms => exact .members (membersText_separated hb hi hg nofun hp)

theorem objectText_writeObject (hp : ∀ m ∈ ms, Plain (Bytes.ascii m.1)) :
  ObjectText (entriesOf ms) (writeObject ms)
  := by
  have h := objectText_separated spaces_nil spaces_nil spaces_nil hp
  rwa [List.nil_append, List.append_nil] at h

theorem objectText_writeObjectSpread (hp : ∀ m ∈ ms, Plain (Bytes.ascii m.1)) :
  ObjectText (entriesOf ms) (writeObjectSpread ms)
  := by
  have hb : Spaces [0x0A] := by simp [Spaces]; rfl
  have hi : Spaces [0x20, 0x20] := by simp [Spaces]; rfl
  have hg : Spaces [0x20] := by simp [Spaces]; rfl
  have h := objectText_separated hb hi hg hp
  rwa [List.append_assoc, List.append_assoc] at h

end Object

/-! ### Records -/

section Record

variable {α : Type} {d : Decoder α} {members : List (Member α)} {ms : List (String × Bytes)}
variable {name : String} {v : Bytes} {as : List α}

/-- Members that are told apart by their names, which need no escapes. -/
structure ProperMembers (members : List (Member α)) : Prop where
  nodup : (members.map Member.key).Nodup
  plain : ∀ k ∈ members.map Member.key, Plain k

theorem ProperMembers.plain_of_perm (hm : ProperMembers members)
    (hp : (ms.map fun m => Bytes.ascii m.1).Perm (members.map Member.key)) :
  ∀ m ∈ ms, Plain (Bytes.ascii m.1)
  := fun _ hmem => hm.plain _ (hp.mem_iff.mp (List.mem_map_of_mem hmem))

/-- Of members with different names, one is found by its name. -/
theorem valuesOf_entriesOf (hn : (ms.map fun m => Bytes.ascii m.1).Nodup) (hm : (name, v) ∈ ms) :
  valuesOf (Bytes.ascii name) (entriesOf ms) = [v]
  := by
  induction ms with
  | nil => cases hm
  | cons m ms ih =>
    rw [List.map_cons, List.nodup_cons] at hn
    rw [entriesOf, List.map_cons, ← List.singleton_append, valuesOf_append]
    obtain rfl | hm := List.mem_cons.mp hm
    · have hnone : valuesOf (Bytes.ascii name) (entriesOf ms) = [] := by
        simp only [valuesOf, List.map_eq_nil_iff, List.filter_eq_nil_iff, decide_eq_true_eq,
          entriesOf, List.mem_map]
        rintro _ ⟨m, hm, rfl⟩ he
        exact hn.1 (he ▸ List.mem_map_of_mem hm)
      rw [← entriesOf, hnone, valuesOf_self]
      rfl
    · have hne : Bytes.ascii m.1 ≠ Bytes.ascii name :=
        fun he => hn.1 (he ▸ List.mem_map_of_mem (f := fun m => Bytes.ascii m.1) hm)
      rw [← entriesOf, valuesOf_of_ne hne, ih hn.2 hm]
      rfl

/-- A record is found in an object that has all its members, in any order, and no other ones. -/
theorem written_finds {text : Bytes} (hm : ProperMembers members)
    (hp : (ms.map fun m => Bytes.ascii m.1).Perm (members.map Member.key))
    (ht : ObjectText (entriesOf ms) text)
    (h : List.Forall₂ (fun m a => ∃ v, (m.name, v) ∈ ms ∧ d.Finds v a) members as) :
  (record d members).Finds text as
  := by
  have hn := hp.nodup_iff.mpr hm.nodup
  apply record_finds hm.nodup ht
  · intro e he
    obtain ⟨⟨name, v⟩, hmem, rfl⟩ := List.mem_map.mp he
    have hk : Bytes.ascii name ∈ members.map Member.key :=
      hp.mem_iff.mp (List.mem_map_of_mem (f := fun m : String × Bytes => Bytes.ascii m.1) hmem)
    obtain ⟨m, hmm, hk⟩ := List.mem_map.mp hk
    constructor
    · exact fun hno => (hno m hmm hk).elim
    · intro m' hm' hk'
      left
      obtain ⟨a, -, v', hv', ha⟩ := exists_of_mem_left h hm'
      have hvv : [v'] = [v] := by
        rw [← valuesOf_entriesOf hn hmem, ← valuesOf_entriesOf hn hv', ← Member.key, hk']
      cases hvv
      exact ⟨a, ha⟩
  · apply h.imp
    rintro m a ⟨v, hmem, ha⟩
    exact ⟨some a, .given (valuesOf_entriesOf hn hmem) ha, rfl⟩

end Record

/-! ### Lists -/

section List

variable {α : Type} {d : Decoder α} {v : Bytes} {vs : List Bytes} {as : List α}

/-- The next element is read, and then the elements behind it. -/
theorem readElements_eq (d : Decoder α) (isFirst : Bool) (s : Bytes) :
  readElements d isFirst s =
    (do
      match ← nextElement isFirst s with
      | .finished r => return ([], r)
      | .item s' =>
        let (a, r) ← d.decode s'
        let (as, r) ← readElements d false r
        return (a :: as, r))
  := by
  rw [readElements]
  split
  · next hn =>
    rw [hn]
    rfl
  · next hn =>
    rw [hn]
    rfl
  · next hn =>
    simp only [bind, Except.bind, hn]
    split
    · next hd => simp only [hd]
    · next hd =>
      simp only [hd]
      split
      · next hr => simp only [hr]
      · next hr =>
        simp only [hr]
        rfl

theorem nextElement_first (hv : Starts v) (rest : Bytes) :
  nextElement true (v ++ rest) = .ok (.item (v ++ rest))
  := by
  obtain ⟨b, s, rfl, hb⟩ := hv
  obtain ⟨hs, hl, -⟩ := startsValue_ne hb
  rw [List.cons_append, nextElement, skipSpace_cons hs]
  dsimp only
  rw [if_neg hl, if_pos rfl]

theorem nextElement_comma (hv : Starts v) (rest : Bytes) :
  nextElement false (comma :: (v ++ rest)) = .ok (.item (v ++ rest))
  := by
  obtain ⟨b, s, rfl, hb⟩ := hv
  obtain ⟨hs, hl, -⟩ := startsValue_ne hb
  rw [List.cons_append, nextElement, skipSpace_cons rfl]
  dsimp only
  rw [if_neg (by decide), if_neg nofun, if_pos rfl, skipSpace_cons hs]
  exact if_neg hl

theorem nextElement_closeList (isFirst : Bool) (rest : Bytes) :
  nextElement isFirst (closeList :: rest) = .ok (.finished rest)
  := by
  rw [nextElement, skipSpace_cons rfl]
  rfl

theorem separated_cons (separator t : Bytes) (ts : List Bytes) :
  separated separator (t :: ts) = t ++ ts.flatMap (separator ++ ·)
  := by
  induction ts generalizing t with
  | nil => simp [separated]
  | cons t' ts ih =>
    rw [List.flatMap_cons, List.append_assoc, ← ih t', ← List.append_assoc]
    rfl

/-- Behind an element there is a comma or the end of the list. -/
theorem ends_elements (vs : List Bytes) (rest : Bytes) :
  Ends (vs.flatMap ([comma] ++ ·) ++ closeList :: rest)
  := by
  cases vs with
  | nil => exact ends_cons rfl rest
  | cons v vs => exact ends_cons rfl _

/-- The elements behind the first one are read, each after its comma. -/
theorem readElements_append (h : List.Forall₂ d.Finds vs as) (hv : ∀ v ∈ vs, Starts v)
    (rest : Bytes) :
  readElements d false (vs.flatMap ([comma] ++ ·) ++ closeList :: rest) = .ok (as, rest)
  := by
  induction h with
  | nil =>
    rw [readElements_eq, List.flatMap_nil, List.nil_append, nextElement_closeList]
    rfl
  | @cons v a vs as ha _ ih =>
    rw [List.forall_mem_cons] at hv
    have hd := ha.decode (ends_elements vs rest)
    rw [readElements_eq, List.flatMap_cons, List.append_assoc, List.append_assoc,
      List.singleton_append, nextElement_comma hv.1]
    simp only [bind, Except.bind, hd, ih hv.2]
    rfl

/-- A list is found where it was written. -/
theorem list_finds (h : List.Forall₂ d.Finds vs as) (hv : ∀ v ∈ vs, Starts v) :
  (list d).Finds (writeList vs) as
  := by
  intro w rest hw _
  have hl : (list d).decode (w ++ (writeList vs ++ rest))
      = readElements d true (separated [comma] vs ++ closeList :: rest) := by
    rw [writeList, List.cons_append, List.cons_append, List.append_assoc, list,
      afterSpace_decode hw rfl, readList, if_pos rfl]
    rfl
  rw [hl, readElements_eq]
  cases h with
  | nil =>
    rw [separated, List.nil_append, nextElement_closeList]
    rfl
  | @cons v a vs as ha h =>
    rw [List.forall_mem_cons] at hv
    have hd := ha.decode (ends_elements vs rest)
    rw [separated_cons, List.append_assoc, nextElement_first hv.1]
    simp only [bind, Except.bind, hd, readElements_append h hv.2]
    rfl

end List

end Json

end BatchFile
