import BatchFile.Footer.Json
import BatchFile.Proofs.Json.Decimal
import BatchFile.Proofs.Json.Written
import BatchFile.ReadStats

/-!
# Footers and counters as JSON

Summaries, footers and counters are read back from the texts that they are written as.  For saved
counters this does not depend on the order of the members, which is not the one they are declared
in.
-/

namespace BatchFile

open Json

/-! ### Footers -/

section Footer

theorem BatchSummary.proper_members :
  ProperMembers BatchSummary.members
  := ⟨by decide, by decide⟩

theorem BatchSummary.decoder_finds (s : BatchSummary) :
  BatchSummary.decoder.Finds s.toJson s
  := by
  have ht : ObjectText
      (entriesOf [("offset", writeWord s.offset), ("record_count", writeWord s.recordCount)])
      s.toJson :=
    objectText_writeObject (proper_members.plain_of_perm (.refl _))
  have hf : (record word members).Finds s.toJson [s.offset, s.recordCount] := by
    apply written_finds proper_members (.refl _) ht
    constructor
    · exact ⟨_, List.mem_cons_self, word_finds s.offset⟩
    · apply List.Forall₂.cons _ .nil
      exact ⟨_, List.mem_cons_of_mem _ List.mem_cons_self, word_finds s.recordCount⟩
  exact hf.map ofMembers

theorem FileFooter.proper_members :
  ProperMembers [(⟨"batches", none⟩ : Member (List BatchSummary))]
  := ⟨by decide, by decide⟩

theorem FileFooter.decoder_finds (f : FileFooter) :
  FileFooter.decoder.Finds f.toJson f
  := by
  have hl : (list BatchSummary.decoder).Finds (writeList (f.batches.map BatchSummary.toJson))
      f.batches := by
    apply list_finds
    · rw [List.forall₂_map_left_iff, List.forall₂_same]
      exact fun s _ => s.decoder_finds
    · intro v hv
      obtain ⟨s, -, rfl⟩ := List.mem_map.mp hv
      exact ⟨openObject, _, rfl, rfl⟩
  have ht : ObjectText
      (entriesOf [("batches", writeList (f.batches.map BatchSummary.toJson))]) f.toJson :=
    objectText_writeObject (proper_members.plain_of_perm (.refl _))
  have hf : (record (list BatchSummary.decoder) [⟨"batches", none⟩]).Finds f.toJson
      [f.batches] := by
    apply written_finds proper_members (.refl _) ht
    apply List.Forall₂.cons _ .nil
    exact ⟨_, List.mem_cons_self, hl⟩
  exact hf.map fun values => FileFooter.mk (values.headD [])

end Footer

/-! ### Counters -/

namespace ReadStats

/-- The members that saved counters are written with. -/
def saved (s : ReadStats) : List (String × Bytes) :=
  s.sorted.map fun m => (m.1, writeWord m.2)

theorem sorted_perm_named (s : ReadStats) :
  s.sorted.Perm s.named
  := by
  have h : [1, 2, 4, 0, 3].Perm [0, 1, 2, 3, 4] := by decide
  exact h.map fun i => s.named.getD i ("", 0)

/-- The members that counters are read from. -/
def members : List (Member UInt64) :=
  zero.named.map fun m => ⟨m.1, none⟩

theorem proper_members :
  ProperMembers members
  := ⟨by decide, by decide⟩

theorem saved_perm_members (s : ReadStats) :
  (s.saved.map fun m => Bytes.ascii m.1).Perm (members.map Member.key)
  := by
  rw [saved, List.map_map]
  exact s.sorted_perm_named.map fun m => Bytes.ascii m.1

theorem objectText_toSavedText (s : ReadStats) :
  ObjectText (entriesOf s.saved) s.toSavedText
  := objectText_writeObjectSpread (proper_members.plain_of_perm s.saved_perm_members)

theorem mem_saved {s : ReadStats} {m : String × UInt64} (h : m ∈ s.named) :
  (m.1, writeWord m.2) ∈ s.saved
  := List.mem_map_of_mem (s.sorted_perm_named.mem_iff.mpr h)

/-- The members are written in another order than they are read in, so they are told apart by
their names. -/
theorem decoder_finds (s : ReadStats) :
  decoder.Finds s.toSavedText s
  := by
  have hf : (record word members).Finds s.toSavedText (s.named.map Prod.snd) := by
    apply written_finds proper_members s.saved_perm_members s.objectText_toSavedText
    have hm : members = s.named.map fun m => ⟨m.1, none⟩ := rfl
    rw [hm, List.forall₂_map_left_iff, List.forall₂_map_right_iff, List.forall₂_same]
    intro m hmem
    exact ⟨_, mem_saved hmem, word_finds m.2⟩
  exact hf.map ofValues

end ReadStats

/-- Every footer is read back from its compact text, and all counters are read back from the text
that is saved: an object whose members are sorted by name and hold each counter under its own
name. -/
theorem json_roundTrip :
  (∀ f : FileFooter, FileFooter.ofJson f.toJson = .ok f)
    ∧ ∀ s : ReadStats, ReadStats.ofJson s.toSavedText = .ok s
      ∧ ObjectText (entriesOf s.saved) s.toSavedText
      ∧ (s.saved.map Prod.fst).Pairwise (· < ·)
      ∧ ∀ m ∈ s.named, valuesOf (Bytes.ascii m.1) (entriesOf s.saved) = [writeWord m.2]
  := by
  constructor
  · exact fun f => f.decoder_finds.parse
  · intro s
    refine ⟨s.decoder_finds.parse, s.objectText_toSavedText, ?_, fun m hm => ?_⟩
    · have hn : s.saved.map Prod.fst = ReadStats.zero.sorted.map Prod.fst := rfl
      rw [hn]
      decide
    · apply valuesOf_entriesOf _ (ReadStats.mem_saved hm)
      exact s.saved_perm_members.nodup_iff.mpr ReadStats.proper_members.nodup

end BatchFile
