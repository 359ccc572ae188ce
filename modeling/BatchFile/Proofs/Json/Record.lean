import BatchFile.Json.Decoder
import BatchFile.Proofs.Json.Skipped
import BatchFile.Proofs.Related

/-!
# Records in objects

A decoder *finds* a value in a text, or *refuses* the text, if it does so wherever the text stands.
If a decoder does one or the other with every value given for a member, and the other values are
well formed, then what the record decoder makes of an object is told by the entries of the object
alone: a member holds the only value given for it, or its default if there is none
(`Json.record_decode`).
-/

namespace BatchFile

namespace Json

/-! ### Keys -/

section Key

variable {w w' w₁ cs contents t rest : Bytes} {es : List Entry}

theorem isLowSurrogate_of_isHighSurrogate {n : Nat} (h : isHighSurrogate n = true) :
  isLowSurrogate n = false
  := by
  simp only [isHighSurrogate, Bool.and_eq_true, decide_eq_true_eq] at h
  simp only [isLowSurrogate, Bool.and_eq_false_iff, decide_eq_false_iff_not]
  omega

theorem readString_append (h : Spells cs contents) (rest : Bytes) :
  readString (cs ++ quote :: rest) = .ok (contents, rest)
  := by
  induction h with
  | nil =>
    rw [List.nil_append, readString.eq_def]
    exact if_pos rfl
  | plain hq hb hc _ ih =>
    rw [List.cons_append, readString.eq_def]
    simp only [if_neg hq, if_neg hb, if_neg hc, ih]
    rfl
  | @short e c cs contents he _ ih =>
    have hu : e ≠ letterU := by
      rintro rfl
      have hnone : shortEscape? letterU = none := rfl
      rw [hnone] at he
      cases he
    rw [List.cons_append, List.cons_append, readString.eq_def]
    simp only [if_neg backslash_ne_quote, if_true, if_neg hu, he, ih]
    rfl
  | single hn hl hh _ ih =>
    simp only [List.cons_append]
    rw [readString.eq_def]
    simp [backslash_ne_quote, hn, hl, hh, ih, prepend]
  | pair hn hh hm hl _ ih =>
    have hl' := isLowSurrogate_of_isHighSurrogate hh
    simp only [List.cons_append]
    rw [readString.eq_def]
    simp [backslash_ne_quote, hn, hl', hh, hm, hl, ih, prepend]

theorem nextKey_quote (hw : Spaces w) (rest : Bytes) :
  nextKey true (w ++ quote :: rest) = .ok (.item rest)
  := by
  rw [nextKey, skipSpace_append_cons hw rfl]
  rfl

theorem nextKey_closeObject (isFirst : Bool) (hw : Spaces w) (rest : Bytes) :
  nextKey isFirst (w ++ closeObject :: rest) = .ok (.finished rest)
  := by
  rw [nextKey, skipSpace_append_cons hw rfl]
  rfl

/-- After a comma the next key is found as at the front. -/
theorem nextKey_comma (hw' : Spaces w') (h : MembersText es t) (rest : Bytes) :
  nextKey false (w' ++ comma :: (t ++ rest)) = nextKey true (t ++ rest)
  := by
  have hq : ∃ w s, Spaces w ∧ t = w ++ quote :: s := by
    cases h with
    | last hw _ _ _ _ => exact ⟨_, _, hw, rfl⟩
    | cons hw _ _ _ _ _ => exact ⟨_, _, hw, rfl⟩
  obtain ⟨w, s, hw, rfl⟩ := hq
  rw [List.append_assoc, List.cons_append, nextKey_quote hw, nextKey,
    skipSpace_append_cons hw' rfl]
  simp only [skipSpace_append_cons hw (b := quote) rfl]
  rfl

theorem skipColon_append (hw₁ : Spaces w₁) (rest : Bytes) :
  skipColon (w₁ ++ colon :: rest) = .ok rest
  := by
  rw [skipColon, skipSpace_append_cons hw₁ rfl]
  rfl

end Key

/-! ### What a decoder does with a text -/

section Decoder

variable {α β : Type} {d : Decoder α} {v : Bytes} {a a' : α}

/-- A decoder finds the value in the text, wherever the text stands. -/
def Decoder.Finds (d : Decoder α) (v : Bytes) (a : α) : Prop :=
  ∀ ⦃w rest : Bytes⦄, Spaces w → Ends rest → d.decode (w ++ (v ++ rest)) = .ok (a, rest)

/-- A decoder finds no value in the text, wherever the text stands. -/
def Decoder.Refuses (d : Decoder α) (v : Bytes) : Prop :=
  ∀ ⦃w rest : Bytes⦄, Spaces w → Ends rest → ∃ e, d.decode (w ++ (v ++ rest)) = .error e

/-- A decoder reads on behind the white space before a value. -/
theorem afterSpace_decode {read : Bytes → Except Fault (α × Bytes)}
    {hr : ∀ {s r : Bytes} {a : α}, read s = .ok (a, r) → r.length < s.length} {w : Bytes}
    {b : UInt8} (hw : Spaces w) (hb : isSpace b = false) (s : Bytes) :
  (afterSpace read hr).decode (w ++ b :: s) = read (b :: s)
  := congrArg read (skipSpace_append_cons hw hb s)

theorem Decoder.Finds.decode {rest : Bytes} (h : d.Finds v a) (hr : Ends rest) :
  d.decode (v ++ rest) = .ok (a, rest)
  := h spaces_nil hr

theorem Decoder.Finds.unique (h : d.Finds v a) (h' : d.Finds v a') :
  a = a'
  := by
  have he := (h.decode ends_nil).symm.trans (h'.decode ends_nil)
  cases he
  rfl

theorem Decoder.Refuses.not_finds (h : d.Refuses v) :
  ¬ d.Finds v a
  := by
  intro hf
  obtain ⟨e, he⟩ := h spaces_nil ends_nil
  rw [hf spaces_nil ends_nil] at he
  cases he

theorem Decoder.Finds.map (f : α → β) (h : d.Finds v a) :
  (d.map f).Finds v (f a)
  := by
  intro w rest hw hr
  simp only [Decoder.map, h hw hr]

/-- A text in which a decoder finds a value stands for it. -/
theorem Decoder.Finds.parse (h : d.Finds v a) :
  parse d v = .ok a
  := by
  have hd := h.decode ends_nil
  rw [List.append_nil] at hd
  rw [Json.parse, hd]
  rfl

theorem parse_map (f : α → β) (d : Decoder α) (s : Bytes) :
  parse (d.map f) s = f <$> parse d s
  := by
  simp only [parse, Decoder.map]
  cases d.decode s with
  | error e => rfl
  | ok p =>
    dsimp only
    split
    · rfl
    · rfl

end Decoder

/-! ### The values given for a member -/

section Values

variable {α : Type} {d : Decoder α} {es es' : List Entry} {m : Member α} {o o' : Option α}

/-- What the name of a member is as a key. -/
def Member.key (m : Member α) : Bytes :=
  Bytes.ascii m.name

/-- The texts of the values that entries have for a key. -/
def valuesOf (key : Bytes) (es : List Entry) : List Bytes :=
  (es.filter fun e => e.1 = key).map Prod.snd

theorem valuesOf_append (key : Bytes) (es es' : List Entry) :
  valuesOf key (es ++ es') = valuesOf key es ++ valuesOf key es'
  := by simp [valuesOf]

theorem exists_of_mem_valuesOf {key v : Bytes} (h : v ∈ valuesOf key es) :
  ∃ e ∈ es, e.2 = v
  := by
  obtain ⟨e, he, rfl⟩ := List.mem_map.mp h
  exact ⟨e, List.mem_of_mem_filter he, rfl⟩

theorem valuesOf_self (key v : Bytes) :
  valuesOf key [(key, v)] = [v]
  := by simp [valuesOf]

theorem valuesOf_of_ne {key key' : Bytes} (h : key' ≠ key) (v : Bytes) :
  valuesOf key [(key', v)] = []
  := by simp [valuesOf, h]

/-- What is held for a member after the entries: the only value given for it, if there is one. -/
inductive Holds (d : Decoder α) (es : List Entry) (m : Member α) : Option α → Prop where
  | missing (h : valuesOf m.key es = []) : Holds d es m none
  | given {v : Bytes} {a : α} (h : valuesOf m.key es = [v]) (hv : d.Finds v a) :
    Holds d es m (some a)

/-- The value of a member is what is held for it, or else its default. -/
def Given (d : Decoder α) (es : List Entry) (m : Member α) (a : α) : Prop :=
  ∃ o, Holds d es m o ∧ o.or m.default? = some a

/-- Why no value is held for a member: more than one is given, or one that is refused. -/
inductive Spoilt (d : Decoder α) (es : List Entry) (m : Member α) : Prop where
  | repeated (h : 2 ≤ (valuesOf m.key es).length) : Spoilt d es m
  | refused {v : Bytes} (h : v ∈ valuesOf m.key es) (hv : d.Refuses v) : Spoilt d es m

theorem Holds.unique (h : Holds d es m o) (h' : Holds d es m o') :
  o = o'
  := by
  cases h with
  | missing h =>
    cases h' with
    | missing _ => rfl
    | given hv _ =>
      rw [h] at hv
      cases hv
  | given h hv =>
    cases h' with
    | missing hm =>
      rw [h] at hm
      cases hm
    | given h' hv' =>
      rw [h] at h'
      cases h'
      rw [hv.unique hv']

theorem Given.unique {a a' : α} (h : Given d es m a) (h' : Given d es m a') :
  a = a'
  := by
  obtain ⟨o, ho, ha⟩ := h
  obtain ⟨o', ho', ha'⟩ := h'
  rw [ho.unique ho', ha'] at ha
  cases ha
  rfl

theorem Spoilt.not_holds (h : Spoilt d es m) :
  ¬ Holds d es m o
  := by
  rintro (hm | ⟨hg, hf⟩)
  · cases h with
    | repeated h => simp [hm] at h
    | refused h _ => simp [hm] at h
  · cases h with
    | repeated h => simp [hg] at h
    | refused h hv =>
      rw [hg, List.mem_singleton] at h
      subst h
      exact hv.not_finds hf

theorem Spoilt.append (h : Spoilt d es m) (es' : List Entry) :
  Spoilt d (es ++ es') m
  := by
  cases h with
  | repeated h =>
    apply Spoilt.repeated
    rw [valuesOf_append, List.length_append]
    omega
  | refused h hv =>
    refine Spoilt.refused ?_ hv
    rw [valuesOf_append]
    exact List.mem_append_left _ h

/-- The order in which values are given makes no difference. -/
theorem Given.of_perm {a : α} (h : Given d es m a)
    (hp : (valuesOf m.key es).Perm (valuesOf m.key es')) :
  Given d es' m a
  := by
  obtain ⟨o, ho, ha⟩ := h
  refine ⟨o, ?_, ha⟩
  cases ho with
  | missing h =>
    rw [h, List.nil_perm] at hp
    exact .missing hp
  | given h hv =>
    rw [h, List.singleton_perm] at hp
    exact .given hp.symm hv

/-- Entries with another key change nothing. -/
theorem Holds.other {key : Bytes} (h : Holds d es m o) (hk : key ≠ m.key) (v : Bytes) :
  Holds d (es ++ [(key, v)]) m o
  := by
  have he : valuesOf m.key (es ++ [(key, v)]) = valuesOf m.key es := by
    rw [valuesOf_append, valuesOf_of_ne hk, List.append_nil]
  cases h with
  | missing h => exact .missing (he.trans h)
  | given h hv => exact .given (he.trans h) hv

end Values

/-! ### One member after another -/

section Members

variable {α : Type} {d : Decoder α} {members : List (Member α)} {found : Found α}
variable {before es : List Entry} {isFirst : Bool} {key v w₁ w₂ s t rest : Bytes}

/-- An entry can be read whatever is around it. -/
structure Readable (d : Decoder α) (members : List (Member α)) (e : Entry) : Prop where
  unknown : (∀ m ∈ members, m.key ≠ e.1) → WellFormed e.2
  known : ∀ m ∈ members, m.key = e.1 → (∃ a, d.Finds e.2 a) ∨ d.Refuses e.2

/-- What has been found after the given entries, if nothing is in the way. -/
def Reached (d : Decoder α) (members : List (Member α)) (es : List Entry) (rest : Bytes)
    (outcome : Except Fault (Found α × Bytes)) : Prop :=
  (∃ found, outcome = .ok (found, rest) ∧ List.Forall₂ (Holds d es) members found)
    ∨ (∃ e, outcome = .error e) ∧ ∃ m ∈ members, Spoilt d es m

/-- An entry with a key of no member changes nothing. -/
theorem holds_others (hb : List.Forall₂ (Holds d before) members found)
    (hk : ∀ m ∈ members, key ≠ m.key) (v : Bytes) :
  List.Forall₂ (Holds d (before ++ [(key, v)])) members found
  := by
  induction hb with
  | nil => exact .nil
  | cons h _ ih =>
    rw [List.forall_mem_cons] at hk
    exact .cons (h.other hk.1 v) (ih hk.2)

/-- A value found for the member at a position. -/
theorem holds_set {i : Nat} {a : α} (hn : (members.map Member.key).Nodup)
    (hb : List.Forall₂ (Holds d before) members found) {m : Member α} (hm : members[i]? = some m)
    (ho : found[i]?.join = none) (hv : d.Finds v a) :
  List.Forall₂ (Holds d (before ++ [(m.key, v)])) members (found.set i (some a))
  := by
  induction hb generalizing i with
  | nil => cases hm
  | @cons m' o ms found' h hb ih =>
    rw [List.map_cons, List.nodup_cons] at hn
    cases i with
    | zero =>
      cases hm
      cases h with
      | given _ _ => cases ho
      | missing hnone =>
        refine .cons (.given ?_ hv) ?_
        · rw [valuesOf_append, hnone, valuesOf_self, List.nil_append]
        · apply holds_others hb
          rintro m' hm' he
          exact hn.1 (he ▸ List.mem_map_of_mem hm')
    | succ i =>
      refine .cons (h.other ?_ v) (ih hn.2 hm ho)
      rintro he
      exact hn.1 (he ▸ List.mem_map_of_mem (List.mem_of_getElem? hm))

theorem not_key_of_findIdx?_eq_none
    (h : members.findIdx? (fun m => Bytes.ascii m.name = key) = none) :
  ∀ m ∈ members, m.key ≠ key
  := by
  intro m hm
  simpa [Member.key] using List.findIdx?_eq_none_iff.mp h m hm

theorem key_of_findIdx?_eq_some {i : Nat}
    (h : members.findIdx? (fun m => Bytes.ascii m.name = key) = some i) :
  ∃ m, members[i]? = some m ∧ m.key = key
  := by
  obtain ⟨hi, hk, -⟩ := List.findIdx?_eq_some_iff_getElem.mp h
  exact ⟨members[i], List.getElem?_eq_getElem hi, by simpa [Member.key] using hk⟩

theorem holds_getElem? {i : Nat} {m : Member α} (hb : List.Forall₂ (Holds d before) members found)
    (hm : members[i]? = some m) :
  Holds d before m found[i]?.join
  := by
  induction hb generalizing i with
  | nil => cases hm
  | cons h _ ih =>
    cases i with
    | zero =>
      cases hm
      exact h
    | succ i => exact ih hm

/-- One more entry. -/
theorem reached_readMember (hn : (members.map Member.key).Nodup)
    (hb : List.Forall₂ (Holds d before) members found) (he : Readable d members (key, v))
    (hw₁ : Spaces w₁) (hw₂ : Spaces w₂) (hr : Ends rest) :
  Reached d members (before ++ [(key, v)]) rest
    (readMember d members found key (w₁ ++ colon :: (w₂ ++ (v ++ rest))))
  := by
  rw [readMember]
  cases hi : members.findIdx? (fun m => Bytes.ascii m.name = key) with
  | none =>
    have hk := not_key_of_findIdx?_eq_none hi
    left
    refine ⟨found, ?_, holds_others hb (fun m hm => (hk m hm).symm) v⟩
    simp only [skipColon_append hw₁, bind, Except.bind, skipValue_append hw₂ (he.unknown hk) hr]
    rfl
  | some i =>
    obtain ⟨m, hm, rfl⟩ := key_of_findIdx?_eq_some hi
    have hmem := List.mem_of_getElem? hm
    have hh := holds_getElem? hb hm
    cases ho : found[i]?.join with
    | some a =>
      right
      rw [ho] at hh
      cases hh with
      | given hg _ =>
        refine ⟨⟨.mismatch, ?_⟩, m, hmem, .repeated ?_⟩
        · simp only [ho, Option.isSome_some, if_true]
        · simp [valuesOf_append, valuesOf_self, hg]
    | none =>
      simp only [ho, Option.isSome_none, Bool.false_eq_true, if_false, skipColon_append hw₁, bind,
        Except.bind]
      obtain ⟨a, ha⟩ | hf := he.known m hmem rfl
      · left
        refine ⟨_, ?_, holds_set hn hb hm ho ha⟩
        simp only [ha hw₂ hr]
        rfl
      · right
        obtain ⟨e, he⟩ := hf hw₂ hr
        refine ⟨⟨e, ?_⟩, m, hmem, .refused ?_ hf⟩
        · simp only [he]
        · simp [valuesOf_append, valuesOf_self]

/-- The next key is read with its value, and then the members behind it. -/
theorem readMembers_eq (d : Decoder α) (members : List (Member α)) (found : Found α)
    (isFirst : Bool) (s : Bytes) :
  readMembers d members found isFirst s =
    (do
      match ← nextKey isFirst s with
      | .finished r => return (found, r)
      | .item s' =>
        let (key, s'') ← readString s'
        let (found', r) ← readMember d members found key s''
        readMembers d members found' false r)
  := by
  rw [readMembers]
  split
  · next hn =>
    rw [hn]
    rfl
  · next hn =>
    rw [hn]
    rfl
  · next hn =>
    simp only [bind, Except.bind, hn]
    split
    · next hk => simp only [hk]
    · next hk =>
      simp only [hk]
      split
      · next hm => simp only [hm]
      · next hm => simp only [hm]

/-- The members of an object, one after another, from any entries before them. -/
theorem reached_readMembers (hn : (members.map Member.key).Nodup) (ht : MembersText es t)
    (hb : List.Forall₂ (Holds d before) members found) (he : ∀ e ∈ es, Readable d members e)
    (hs : nextKey isFirst s = nextKey true (t ++ closeObject :: rest)) :
  Reached d members (before ++ es) rest (readMembers d members found isFirst s)
  := by
  induction ht generalizing before found isFirst s with
  | last hw hk hw₁ hw₂ hw' =>
    simp only [List.append_assoc, List.cons_append, nextKey_quote hw] at hs
    have hr := ends_append hw' (ends_cons (b := closeObject) rfl rest)
    have hm := reached_readMember hn hb (he _ (List.mem_singleton_self _)) hw₁ hw₂ hr
    obtain ⟨found₁, hm, hb₁⟩ | ⟨⟨e, hm⟩, hf⟩ := hm
    · left
      refine ⟨found₁, ?_, hb₁⟩
      rw [readMembers_eq, hs]
      simp only [bind, Except.bind, readString_append hk, hm]
      rw [readMembers_eq, nextKey_closeObject false hw']
      rfl
    · right
      refine ⟨⟨e, ?_⟩, hf⟩
      rw [readMembers_eq, hs]
      simp only [bind, Except.bind, readString_append hk, hm]
  | @cons _ _ key _ _ v _ ms es hw hk hw₁ hw₂ hw' h ih =>
    simp only [List.append_assoc, List.cons_append, nextKey_quote hw] at hs
    rw [List.forall_mem_cons] at he
    have hr := ends_append hw' (ends_cons (b := comma) rfl (ms ++ closeObject :: rest))
    rw [List.append_cons]
    obtain ⟨found₁, hm, hb₁⟩ | ⟨⟨e, hm⟩, m, hmem, hf⟩ :=
      reached_readMember hn hb he.1 hw₁ hw₂ hr
    · rw [readMembers_eq, hs]
      simp only [bind, Except.bind, readString_append hk, hm]
      exact ih hb₁ he.2 (nextKey_comma hw' h _)
    · right
      refine ⟨⟨e, ?_⟩, m, hmem, hf.append es⟩
      rw [readMembers_eq, hs]
      simp only [bind, Except.bind, readString_append hk, hm]

end Members

/-! ### Records -/

section Record

variable {α : Type} {d : Decoder α} {members : List (Member α)} {found : Found α}
variable {es : List Entry} {text w tail : Bytes} {as : List α}

theorem Holds.given_iff {m : Member α} {o : Option α} (h : Holds d es m o) {a : α} :
  Given d es m a ↔ o.or m.default? = some a
  := by
  constructor
  · rintro ⟨o', ho', ha⟩
    rwa [h.unique ho']
  · exact fun ha => ⟨o, h, ha⟩

theorem complete_eq_ok_iff (hb : List.Forall₂ (Holds d es) members found) :
  complete members found = .ok as ↔ List.Forall₂ (Given d es) members as
  := by
  induction hb generalizing as with
  | nil => simp [complete, eq_comm]
  | @cons m o members found h _ ih =>
    rw [complete, List.head?_cons, List.tail_cons, Option.join_some, List.forall₂_cons_left_iff]
    constructor
    · intro hc
      split at hc
      · cases hc
      · next a ha =>
        split at hc
        · cases hc
        · next as' hs =>
          cases hc
          exact ⟨a, as', h.given_iff.mpr ha, ih.mp hs, rfl⟩
    · rintro ⟨a, as', ha, hs, rfl⟩
      simp only [h.given_iff.mp ha, ih.mpr hs]

theorem reached_object (hn : (members.map Member.key).Nodup) (ht : ObjectText es text)
    (he : ∀ e ∈ es, Readable d members e) (rest : Bytes) :
  ∃ body, text = openObject :: body
    ∧ Reached d members es rest
      (readMembers d members (members.map fun _ => none) true (body ++ rest))
  := by
  have hb : List.Forall₂ (Holds d []) members (members.map fun _ => none) := by
    rw [List.forall₂_map_right_iff, List.forall₂_same]
    exact fun m _ => .missing rfl
  cases ht with
  | @empty w hw =>
    refine ⟨_, rfl, .inl ⟨_, ?_, hb⟩⟩
    rw [List.append_assoc, readMembers_eq, List.singleton_append, nextKey_closeObject true hw]
    rfl
  | members h =>
    refine ⟨_, rfl, ?_⟩
    rw [List.append_assoc]
    exact reached_readMembers hn h hb he rfl

/-- A member of which no value is held has none. -/
theorem Spoilt.not_given {m : Member α} (h : Spoilt d es m) (hm : m ∈ members) (as : List α) :
  ¬ List.Forall₂ (Given d es) members as
  := by
  intro hg
  obtain ⟨a, -, o, ho, -⟩ := exists_of_mem_left hg hm
  exact h.not_holds ho

/-- What is read from an object is the value of each member, whatever follows the object; and if
some member has none, there is an error. -/
theorem record_decode (hn : (members.map Member.key).Nodup) (ht : ObjectText es text)
    (he : ∀ e ∈ es, Readable d members e) (hw : Spaces w) (rest : Bytes) :
  (∃ as, (record d members).decode (w ++ (text ++ rest)) = .ok (as, rest)
      ∧ List.Forall₂ (Given d es) members as)
    ∨ (∃ e, (record d members).decode (w ++ (text ++ rest)) = .error e)
      ∧ ∀ as, ¬ List.Forall₂ (Given d es) members as
  := by
  obtain ⟨body, rfl, hm⟩ := reached_object hn ht he rest
  have hd : (record d members).decode (w ++ (openObject :: body ++ rest))
      = readObject d members (body ++ rest) := by
    rw [List.cons_append, record, afterSpace_decode hw rfl, readRecord, if_pos rfl]
  rw [hd, readObject]
  obtain ⟨found, hf, hb⟩ | ⟨⟨e, hf⟩, m, hmem, hs⟩ := hm
  · rw [hf]
    dsimp only
    cases hc : complete members found with
    | ok as => exact .inl ⟨as, rfl, (complete_eq_ok_iff hb).mp hc⟩
    | error e =>
      refine .inr ⟨⟨e, rfl⟩, fun as hg => ?_⟩
      rw [(complete_eq_ok_iff hb).mpr hg] at hc
      cases hc
  · rw [hf]
    exact .inr ⟨⟨e, rfl⟩, hs.not_given hmem⟩

/-- The values of the members are told by the entries. -/
theorem given_unique {as as' : List α} (h : List.Forall₂ (Given d es) members as)
    (h' : List.Forall₂ (Given d es) members as') :
  as = as'
  := by
  induction h generalizing as' with
  | nil =>
    cases h'
    rfl
  | cons h _ ih =>
    cases h' with
    | cons h' hs' => rw [h.unique h', ih hs']

theorem record_finds (hn : (members.map Member.key).Nodup) (ht : ObjectText es text)
    (he : ∀ e ∈ es, Readable d members e) (h : List.Forall₂ (Given d es) members as) :
  (record d members).Finds text as
  := by
  intro w rest hw _
  obtain ⟨as', hd, hg⟩ | ⟨-, hno⟩ := record_decode hn ht he hw rest
  · rw [hd, given_unique hg h]
  · exact (hno as h).elim

/-- A whole text with an object stands for a record if and only if only white space follows the
object and each member has a value. -/
theorem parse_record_eq_ok_iff (hn : (members.map Member.key).Nodup) (ht : ObjectText es text)
    (he : ∀ e ∈ es, Readable d members e) (hw : Spaces w) :
  parse (record d members) (w ++ (text ++ tail)) = .ok as
    ↔ Spaces tail ∧ List.Forall₂ (Given d es) members as
  := by
  rw [parse]
  obtain ⟨as', hd, hg⟩ | ⟨⟨e, hd⟩, hno⟩ := record_decode hn ht he hw tail
  · rw [hd, ← skipSpace_eq_nil_iff]
    dsimp only
    constructor
    · intro h
      split at h
      · next htail =>
        cases h
        exact ⟨htail, hg⟩
      · cases h
    · rintro ⟨htail, h⟩
      rw [if_pos htail, given_unique hg h]
  · rw [hd]
    constructor
    · nofun
    · exact fun ⟨_, h⟩ => (hno as h).elim

end Record

end Json

end BatchFile
