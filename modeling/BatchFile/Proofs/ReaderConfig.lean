import BatchFile.ConfigFile
import BatchFile.Proofs.Json.Written

/-!
# Configurations as JSON

What the text of an object stands for as a configuration is told by the values that it gives for
the two known members, wherever they stand among other ones (`ReaderConfig.parse_eq_ok_iff`).  The
values of other members may be nested to any depth, and they are passed over.
-/

namespace BatchFile

/-! ### Truth values -/

namespace Json

variable {v : Bytes}

theorem readBool_append (b : Bool) (rest : Bytes) :
  readBool (writeBool b ++ rest) = .ok (b, rest)
  := by
  cases b with
  | false =>
    have hs : skipWord (Bytes.ascii "alse") (Bytes.ascii "alse" ++ rest) = .ok rest :=
      skipWord_append _ rest
    exact congrArg (Functor.map (false, ·)) hs
  | true =>
    have hs : skipWord (Bytes.ascii "rue") (Bytes.ascii "rue" ++ rest) = .ok rest :=
      skipWord_append _ rest
    exact congrArg (Functor.map (true, ·)) hs

theorem bool_finds (b : Bool) :
  bool.Finds (writeBool b) b
  := by
  intro w rest hw _
  rw [← readBool_append b rest]
  cases b with
  | false => exact afterSpace_decode hw rfl _
  | true => exact afterSpace_decode hw rfl _

/-- A value that is no truth value starts with another letter. -/
theorem starts_of_not_bool (hv : WellFormed v) (hn : ∀ b, v ≠ writeBool b) :
  ∃ c s, v = c :: s ∧ isSpace c = false ∧ c ≠ 0x74 ∧ c ≠ 0x66
  := by
  cases hv with
  | null => exact ⟨0x6E, _, rfl, rfl, by decide, by decide⟩
  | yes => exact (hn true rfl).elim
  | no => exact (hn false rfl).elim
  | number h =>
    obtain ⟨c, s, rfl, hc⟩ := h.starts
    have hs : isSpace c = false := (startsValue_ne (by simp [startsValue, hc])).1
    exact ⟨c, s, rfl, hs, ne_of_isDigit hc rfl, ne_of_isDigit hc rfl⟩
  | negative _ => exact ⟨minus, _, rfl, rfl, by decide, by decide⟩
  | string _ => exact ⟨quote, _, rfl, rfl, by decide, by decide⟩
  | emptyList _ => exact ⟨openList, _, rfl, rfl, by decide, by decide⟩
  | list _ => exact ⟨openList, _, rfl, rfl, by decide, by decide⟩
  | emptyObject _ => exact ⟨openObject, _, rfl, rfl, by decide, by decide⟩
  | object _ => exact ⟨openObject, _, rfl, rfl, by decide, by decide⟩

theorem bool_refuses (hv : WellFormed v) (hn : ∀ b, v ≠ writeBool b) :
  bool.Refuses v
  := by
  intro w rest hw _
  obtain ⟨c, s, rfl, hs, ht, hf⟩ := starts_of_not_bool hv hn
  refine ⟨wrongForm c (s ++ rest), ?_⟩
  rw [List.cons_append, bool, afterSpace_decode hw hs, readBool, if_neg ht, if_neg hf]

theorem bool_decides (hv : WellFormed v) :
  (∃ b, bool.Finds v b) ∨ bool.Refuses v
  := by
  by_cases h : ∃ b, v = writeBool b
  · obtain ⟨b, rfl⟩ := h
    exact .inl ⟨b, bool_finds b⟩
  · exact .inr (bool_refuses hv fun b hb => h ⟨b, hb⟩)

end Json

/-! ### Configurations -/

namespace ReaderConfig

open Json

variable {es es' : List Entry} {front text tail : Bytes} {m : Member Bool}

theorem proper_members :
  ProperMembers members
  := ⟨by decide, by decide⟩

/-- A configuration is read back from the text that it is written as. -/
theorem ofJson_toJson (c : ReaderConfig) :
  ofJson c.toJson = .ok c
  := by
  have ht : ObjectText
      (entriesOf [("validate_framing", writeBool c.validateFraming),
        ("verify_batch_row_counts", writeBool c.verifyRowCounts)])
      c.toJson :=
    objectText_writeObject (proper_members.plain_of_perm (.refl _))
  have hf : (record bool members).Finds c.toJson [c.validateFraming, c.verifyRowCounts] := by
    apply written_finds proper_members (.refl _) ht
    constructor
    · exact ⟨_, List.mem_cons_self, bool_finds c.validateFraming⟩
    · apply List.Forall₂.cons _ .nil
      exact ⟨_, List.mem_cons_of_mem _ List.mem_cons_self, bool_finds c.verifyRowCounts⟩
  exact (hf.map ofMembers).parse

theorem readable_of_wellFormed (hv : ∀ e ∈ es, WellFormed e.2) :
  ∀ e ∈ es, Readable bool members e
  := fun e he => ⟨fun _ => hv e he, fun _ _ _ => bool_decides (hv e he)⟩

theorem parse_eq_ok_iff {c : ReaderConfig} :
  parse text = .ok c
    ↔ ∃ bs, Json.parse (record bool members) text = .ok bs ∧ ofMembers bs = c
  := by
  rw [parse, ofJson, decoder, parse_map]
  cases Json.parse (record bool members) text with
  | error e => simp [during, Functor.map, Except.map]
  | ok bs => simp [during, Functor.map, Except.map]

/-- A text with an object stands for a configuration if and only if only white space follows the
object and each known member has a value. -/
theorem parse_object_eq_ok_iff (hs : Spaces front) (ht : ObjectText es text)
    (hv : ∀ e ∈ es, WellFormed e.2) {c : ReaderConfig} :
  parse (front ++ (text ++ tail)) = .ok c
    ↔ Spaces tail ∧ ∃ bs, List.Forall₂ (Given bool es) members bs ∧ ofMembers bs = c
  := by
  simp only [parse_eq_ok_iff,
    parse_record_eq_ok_iff proper_members.nodup ht (readable_of_wellFormed hv) hs, and_assoc,
    exists_and_left]

theorem exists_error (h : ∀ c, parse text ≠ .ok c) :
  ∃ e, parse text = .error e
  := by
  cases hp : parse text with
  | error e => exact ⟨e, rfl⟩
  | ok c => exact (h c hp).elim

/-- The value of a member that is given at most once is the one given, or the default. -/
theorem given_of_valuesOf {o : Option Bool} {b : Bool}
    (h : valuesOf m.key es = (o.map writeBool).toList) (hd : m.default? = some b) :
  Given bool es m (o.getD b)
  := by
  cases o with
  | none => exact ⟨none, .missing h, hd⟩
  | some a => exact ⟨some a, .given h (bool_finds a), rfl⟩

/-- Values that a member cannot have: more than one, or one that is no truth value. -/
def Unfit (vs : List Bytes) : Prop :=
  2 ≤ vs.length ∨ ∃ v ∈ vs, ∀ b, v ≠ writeBool b

theorem spoilt_of_unfit (hv : ∀ e ∈ es, WellFormed e.2) (h : Unfit (valuesOf m.key es)) :
  Spoilt bool es m
  := by
  obtain h | ⟨v, hmem, hn⟩ := h
  · exact .repeated h
  · obtain ⟨e, he, rfl⟩ := exists_of_mem_valuesOf hmem
    exact .refused hmem (bool_refuses (hv e he) hn)

/-- Whether an entry is one of a known member. -/
def isKnown (e : Entry) : Bool :=
  e.1 ∈ members.map Member.key

/-- The values given for a known member are told by the known entries. -/
theorem valuesOf_filter (hm : m ∈ members) (es : List Entry) :
  valuesOf m.key (es.filter isKnown) = valuesOf m.key es
  := by
  rw [valuesOf, valuesOf, List.filter_filter]
  congr 1
  apply List.filter_congr
  intro e _
  by_cases h : e.1 = m.key
  · have hk : isKnown e = true := by
      rw [isKnown, h]
      exact decide_eq_true (List.mem_map_of_mem hm)
    simp [h, hk]
  · simp [h]

theorem given_of_perm {bs : List Bool} (hp : (es.filter isKnown).Perm (es'.filter isKnown))
    (h : List.Forall₂ (Given bool es) members bs) :
  List.Forall₂ (Given bool es') members bs
  := by
  have hm : ∀ m ∈ members, (valuesOf m.key es).Perm (valuesOf m.key es') := by
    intro m hm
    rw [← valuesOf_filter hm es, ← valuesOf_filter hm es']
    exact (hp.filter _).map Prod.snd
  apply ((List.forall₂_and_left _ _).mpr ⟨hm, h⟩).imp
  rintro m b ⟨hm, hg⟩
  exact hg.of_perm hm

theorem toOption_congr {ε α : Type} {x y : Except ε α} (h : ∀ a, x = .ok a ↔ y = .ok a) :
  x.toOption = y.toOption
  := by
  cases x with
  | ok a => rw [(h a).mp rfl]
  | error e =>
    cases y with
    | ok b => cases (h b).mpr rfl
    | error e' => rfl

/-- What the text of an object stands for, with white space before it, is told by its entries for
the two known members.  If each of them is given at most once and is a truth value, the
configuration has the given values and the defaults of the missing ones.  If one of them is given
twice or is something else, or if anything but white space follows the object, there is an error.
Neither the order of the members nor white space nor other members change the outcome. -/
theorem parse_object (hs : Spaces front) (ht : ObjectText es text)
    (hv : ∀ e ∈ es, WellFormed e.2) :
  (∀ framing counts : Option Bool, Spaces tail →
      valuesOf (Bytes.ascii "validate_framing") es = (framing.map writeBool).toList →
      valuesOf (Bytes.ascii "verify_batch_row_counts") es = (counts.map writeBool).toList →
      parse (front ++ (text ++ tail))
        = .ok ⟨framing.getD standard.validateFraming, counts.getD standard.verifyRowCounts⟩)
    ∧ (∀ name ∈ ["validate_framing", "verify_batch_row_counts"],
      Unfit (valuesOf (Bytes.ascii name) es) → ∃ e, parse (front ++ (text ++ tail)) = .error e)
    ∧ (¬ Spaces tail → ∃ e, parse (front ++ (text ++ tail)) = .error e)
    ∧ ∀ (es' : List Entry) (front' text' tail' : Bytes), Spaces front' → ObjectText es' text' →
      (∀ e ∈ es', WellFormed e.2) → (Spaces tail ↔ Spaces tail') →
      (es.filter isKnown).Perm (es'.filter isKnown) →
      (parse (front ++ (text ++ tail))).toOption = (parse (front' ++ (text' ++ tail'))).toOption
  := by
  refine ⟨?_, ?_, ?_, ?_⟩
  · intro framing counts htail hf hc
    rw [parse_object_eq_ok_iff hs ht hv]
    exact ⟨htail, _, .cons (given_of_valuesOf hf rfl) (.cons (given_of_valuesOf hc rfl) .nil), rfl⟩
  · intro name hname hu
    obtain ⟨m, hm, rfl⟩ : ∃ m ∈ members, m.name = name := List.mem_map.mp hname
    apply exists_error
    intro c hc
    obtain ⟨-, bs, hg, -⟩ := (parse_object_eq_ok_iff hs ht hv).mp hc
    exact (spoilt_of_unfit hv hu).not_given hm bs hg
  · intro htail
    apply exists_error
    intro c hc
    exact htail ((parse_object_eq_ok_iff hs ht hv).mp hc).1
  · intro es' front' text' tail' hs' ht' hv' htail hp
    apply toOption_congr
    intro c
    rw [parse_object_eq_ok_iff hs ht hv, parse_object_eq_ok_iff hs' ht' hv', htail]
    apply and_congr_right'
    apply exists_congr
    exact fun bs => and_congr_left' ⟨given_of_perm hp, given_of_perm hp.symm⟩

/-! ### A nested object -/

/-- The text of an object with an unknown member whose key and value contain brackets, and with a
known member whose key is written with an escape. -/
def nestedText : Bytes :=
  Bytes.ascii "\x7b\"a\\\"\x7d\":[1e5,\x7b\"b\":[]\x7d],\"verify_batch_row_counts\" : false,"
    ++ 0x0A :: Bytes.ascii "\"\\u0076alidate_framing\":true\x7d"

/-- The entries of that object. -/
def nestedEntries : List Entry :=
  [(Bytes.ascii "a\"\x7d", Bytes.ascii "[1e5,\x7b\"b\":[]\x7d]"),
    (Bytes.ascii "verify_batch_row_counts", writeBool false),
    (Bytes.ascii "validate_framing", writeBool true)]

theorem digits_singleton {b : UInt8} (h : isDigit b = true) :
  Digits [b]
  := by
  constructor
  · nofun
  · intro c hc
    rwa [List.mem_singleton.mp hc]

theorem wellFormed_nested :
  WellFormed (Bytes.ascii "[1e5,\x7b\"b\":[]\x7d]")
  := by
  have hone : IntegerText (Bytes.ascii "1") :=
    .digits (by decide) (digits_singleton rfl)
  have hfive : ExponentText (Bytes.ascii "e5") :=
    .unsigned rfl (digits_singleton rfl)
  have hkey : Characters (Bytes.ascii "b") :=
    .plain (by decide) (by decide) (by decide) .nil
  have hobject : WellFormed (Bytes.ascii "\x7b\"b\":[]\x7d") :=
    .object (.member spaces_nil hkey spaces_nil spaces_nil (.emptyList spaces_nil) spaces_nil)
  exact .list (.elements spaces_nil (.number (.mk hone .none hfive)) spaces_nil
    (.element spaces_nil hobject spaces_nil))

theorem objectText_nested :
  ObjectText nestedEntries nestedText
  := by
  have hunknown : Spells (Bytes.ascii "a\\\"\x7d") (Bytes.ascii "a\"\x7d") :=
    .plain (by decide) (by decide) (by decide)
      (.short rfl (.plain (by decide) (by decide) (by decide) .nil))
  have hcounts : Plain (Bytes.ascii "verify_batch_row_counts") := by decide
  have hrest : Plain (Bytes.ascii "alidate_framing") := by decide
  have hframing : Spells (Bytes.ascii "\\u0076alidate_framing") (Bytes.ascii "validate_framing") :=
    .single (n := 0x76) rfl rfl rfl hrest.spells
  have hspace : Spaces [0x20] := by simp [Spaces, isSpace]
  have hline : Spaces [0x0A] := by simp [Spaces, isSpace]
  exact .members (.cons spaces_nil hunknown spaces_nil spaces_nil spaces_nil
    (.cons spaces_nil hcounts.spells hspace hspace spaces_nil
      (.last hline hframing spaces_nil spaces_nil spaces_nil)))

theorem parse_nested :
  Spaces [0x0A] ∧ ObjectText nestedEntries nestedText ∧ (∀ e ∈ nestedEntries, WellFormed e.2)
    ∧ parse ([0x0A] ++ (nestedText ++ [0x0A])) = .ok ⟨true, false⟩
  := by
  have hs : Spaces [0x0A] := by simp [Spaces, isSpace]
  have hv : ∀ e ∈ nestedEntries, WellFormed e.2 := by
    intro e he
    simp only [nestedEntries, List.mem_cons, List.not_mem_nil, or_false] at he
    obtain rfl | rfl | rfl := he
    · exact wellFormed_nested
    · exact .no
    · exact .yes
  refine ⟨hs, objectText_nested, hv, ?_⟩
  exact (parse_object hs objectText_nested hv).1 (some true) (some false) hs rfl rfl

end ReaderConfig

end BatchFile
