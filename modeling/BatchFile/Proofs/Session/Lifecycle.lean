import BatchFile.Proofs.Reader.Correct
import BatchFile.Proofs.Reader.Lending
import BatchFile.Proofs.Session

/-!
# The life of streams

In a session over an observed storage every stream that has been opened is held by one open
reader or has been given back, once.  That is so at the start, every step keeps it whatever fails
on the way (`Session.settled_perform`), and so does any change of the storage from outside.  With
it come the counts of open streams and what the steps do to readers that are unopened, open or
closed (`Session.orderly_of_reachable`).
-/

namespace BatchFile

open Storage Ledger

namespace Session

/-! ### The readers of a session -/

section Readers

variable {σ τ : Type} {s : Session σ τ} {name : String} {r : Reader τ}

/-- The number of readers whose stream is open. -/
def openReaders (s : Session σ τ) : Nat := (s.readers.filter fun x => x.2.isOpen).length

theorem forget_of_none (h : s.reader? name = none) :
  s.forget name = s
  := by
  rw [reader?, Option.map_eq_none_iff, List.find?_eq_none] at h
  rw [forget, List.filter_eq_self.mpr]
  simpa using h

theorem replace_replace (s : Session σ τ) (name : String) (x y : Reader τ × σ) :
  (s.replace name x).replace name y = s.replace name y
  := by
  simp [replace, put]

/-- Putting a reader keeps the names apart. -/
theorem nodup_names_put (h : (s.readers.map Prod.fst).Nodup) (r : Reader τ) :
  ((s.put name r).readers.map Prod.fst).Nodup
  := by
  rw [put, List.map_cons, List.nodup_cons]
  constructor
  · simp
  · apply h.sublist (List.filter_sublist.map _)

/-- A named reader can be brought to the front of the readers. -/
theorem perm_of_find? {xs : List (String × Reader τ)} (hn : (xs.map Prod.fst).Nodup)
    (hr : (xs.find? fun x => x.1 = name).map Prod.snd = some r) :
  xs.Perm ((name, r) :: xs.filter fun x => x.1 ≠ name)
  := by
  induction xs with
  | nil => cases hr
  | cons x xs ih =>
    obtain ⟨other, r'⟩ := x
    rw [List.map_cons, List.nodup_cons] at hn
    by_cases h : other = name
    · subst h
      rw [List.find?_cons_of_pos (by simp)] at hr
      obtain rfl := Option.some.inj hr
      rw [List.filter_cons_of_neg (by simp), List.filter_eq_self.mpr]
      · intro x hx
        simp only [ne_eq, decide_not, Bool.not_eq_true', decide_eq_false_iff_not]
        intro h
        apply hn.1
        rw [← h]
        apply List.mem_map_of_mem hx
    · rw [List.find?_cons_of_neg (by simpa using h)] at hr
      rw [List.filter_cons_of_pos (by simpa using h)]
      apply ((ih hn.2 hr).cons _).trans
      apply List.Perm.swap

end Readers

/-! ### Steps of readers -/

section Steps

variable {σ τ : Type} [Storage σ τ] {s : Session σ τ} {name : String} {r : Reader τ}
  {range : RowRange} {step : Step}

/-- The step neither drops the reader of a name nor puts another one in its place. -/
def Step.Keeps (name : String) : Step → Prop
  | .make other _ _ _ => other ≠ name
  | .drop other => other ≠ name
  | _ => True

/-- Closing a reader twice is the same as closing it once. -/
theorem closeReader_closeReader (s : Session σ τ) (name : String) :
  (s.closeReader name).closeReader name = s.closeReader name
  := by
  cases hr : s.reader? name with
  | none => rw [closeReader_of_none hr, closeReader_of_none hr]
  | some r =>
    have hs : (r.close s.storage).1.state = .closed := by rw [Reader.close_fst]
    rw [closeReader_of_some hr, closeReader_of_some (reader?_replace s name _),
      Reader.close_of_closed hs, replace_replace]
    rfl

end Steps

/-! ### Streams in order -/

variable {σ τ : Type} {s : Session (Ledger (Observed σ)) (Numbered τ)} {name : String}
  {r : Reader (Numbered τ)} {range : RowRange} {step : Step}

/-- The numbers of the streams that the readers of a session hold. -/
def held (s : Session (Ledger (Observed σ)) (Numbered τ)) : List Nat :=
  s.readers.flatMap fun x => x.2.held

theorem length_held (s : Session (Ledger (Observed σ)) (Numbered τ)) :
  s.held.length = s.openReaders
  := by
  rw [held, openReaders]
  induction s.readers with
  | nil => rfl
  | cons x xs ih =>
    rw [List.flatMap_cons, List.length_append, ih, Reader.length_held, List.filter_cons]
    split
    · rw [List.length_cons, Nat.add_comm]
    · rw [Nat.zero_add]

theorem held_put (s : Session (Ledger (Observed σ)) (Numbered τ)) (name : String)
    (r : Reader (Numbered τ)) :
  (s.put name r).held = r.held ++ (s.forget name).held
  := rfl

/-- Every reader has a name of its own, and the books are in order while the readers hold their
streams. -/
structure Settled (s : Session (Ledger (Observed σ)) (Numbered τ)) : Prop where
  nodup_names : (s.readers.map Prod.fst).Nodup
  balanced : s.storage.books.Balanced s.held

namespace Settled

/-- The streams that are held are those of one reader and those of the others. -/
theorem perm_held (h : Settled s) (hr : s.reader? name = some r) :
  s.held.Perm (r.held ++ (s.forget name).held)
  := (perm_of_find? h.nodup_names hr).flatMap_right
      fun x : String × Reader (Numbered τ) => x.2.held

/-- The others hold all streams if a reader holds none. -/
theorem balanced_forget (h : Settled s) (hn : ∀ r, s.reader? name = some r → r.held = []) :
  s.storage.books.Balanced (s.forget name).held
  := by
  cases hr : s.reader? name with
  | none =>
    rw [forget_of_none hr]
    apply h.balanced
  | some r =>
    have hp := h.perm_held hr
    rw [hn r hr] at hp
    apply h.balanced.of_perm hp.symm

theorem forget (h : Settled s) (hn : ∀ r, s.reader? name = some r → r.held = []) :
  Settled (s.forget name)
  where
  nodup_names := h.nodup_names.sublist (List.filter_sublist.map _)
  balanced := h.balanced_forget hn

/-- A reader that holds nothing can take the place of one that holds nothing. -/
theorem put (h : Settled s) (hn : ∀ r, s.reader? name = some r → r.held = [])
    (hr : r.held = []) :
  Settled (s.put name r)
  where
  nodup_names := nodup_names_put h.nodup_names r
  balanced := by
    rw [held_put, hr]
    apply h.balanced_forget hn

/-- What one reader does leaves a session settled if it leaves the books in order. -/
theorem replace {x : Reader (Numbered τ) × Ledger (Observed σ)} (h : Settled s)
    (hr : s.reader? name = some r)
    (hx : ∀ others, s.storage.books.Balanced (r.held ++ others) →
      x.2.books.Balanced (x.1.held ++ others)) :
  Settled (s.replace name x)
  where
  nodup_names := nodup_names_put h.nodup_names x.1
  balanced := hx _ (h.balanced.of_perm (h.perm_held hr).symm)

/-- Whatever happens to the storage inside, the books stay as they are. -/
theorem change (h : Settled s) (inner : σ) :
  Settled { s with storage := { s.storage with inner := { s.storage.inner with inner := inner } } }
  := ⟨h.nodup_names, h.balanced⟩

/-- The streams that are open are those that readers hold. -/
theorem opens_eq (h : Settled s) :
  s.storage.inner.opens = s.storage.inner.releases + s.openReaders
  := by
  rw [← length_held]
  exact h.balanced.opens_eq_add

theorem openStreams_eq (h : Settled s) :
  s.storage.inner.openStreams = s.openReaders
  := by
  rw [Observed.openStreams, h.opens_eq, Nat.add_sub_cancel_left]

end Settled

theorem settled_start (inner : σ) :
  Settled (start (Ledger.start (Observed.start inner)) :
    Session (Ledger (Observed σ)) (Numbered τ))
  := ⟨List.nodup_nil, balanced_start inner⟩

section Runs

variable [Storage σ τ]

/-! ### Steps keep streams in order -/

theorem Settled.closeReader (h : Settled s) (name : String) :
  Settled (s.closeReader name)
  := by
  cases hr : s.reader? name with
  | none => rwa [closeReader_of_none hr]
  | some r =>
    rw [closeReader_of_some hr]
    apply h.replace hr
    exact fun _ => Reader.balanced_close

theorem held_of_closeReader (hr : (s.closeReader name).reader? name = some r) :
  r.held = []
  := by
  cases hs : s.reader? name with
  | none =>
    rw [closeReader_of_none hs, hs] at hr
    cases hr
  | some r' =>
    rw [reader?_closeReader hs] at hr
    obtain rfl := Option.some.inj hr
    rfl

theorem requests_closeReader (s : Session (Ledger (Observed σ)) (Numbered τ)) (name : String) :
  (s.closeReader name).storage.requests = s.storage.requests
  := by
  cases hr : s.reader? name with
  | none => rw [closeReader_of_none hr]
  | some r =>
    rw [closeReader_of_some hr]
    show (r.close s.storage).2.requests = s.storage.requests
    rw [Reader.close]
    cases r.state <;> rfl

variable [Ipc.Decoder]

theorem settled_of_reads (h : Settled s) (hs : step.Reads name range) :
  Settled (s.perform step).2
  := by
  cases hr : s.reader? name with
  | none => rwa [perform_of_reads_none hs hr]
  | some r =>
    rw [perform_of_reads hs hr]
    apply h.replace hr
    exact fun _ => Reader.balanced_read range

/-- Every step leaves streams in order, whatever it gives. -/
theorem settled_perform (h : Settled s) (step : Step) :
  Settled (s.perform step).2
  := by
  cases step with
  | load base path =>
    have hb := FileMetadata.balanced_load base path h.balanced
    unfold perform
    simp only
    generalize FileMetadata.load base path s.storage = a at hb
    obtain ⟨e | m, storage⟩ := a <;> exact ⟨h.nodup_names, hb⟩
  | make name base m config =>
    apply (h.closeReader name).put (fun _ => held_of_closeReader)
    rfl
  | read name range => apply settled_of_reads h (Step.reads_read name range)
  | readRecords name t range => apply settled_of_reads h (Step.reads_readRecords name t range)
  | close name => apply h.closeReader name
  | drop name => apply (h.closeReader name).forget fun _ => held_of_closeReader

/-! ### What steps do to one reader -/

theorem advances_of_reads {other : String} (hs : step.Reads other range)
    (hr : s.reader? name = some r) :
  ∃ r', (s.perform step).2.reader? name = some r' ∧ Reader.Advances r.state r'.state
  := by
  by_cases h : other = name
  · subst h
    rw [perform_of_reads hs hr]
    exact ⟨_, reader?_replace s other _, Reader.advances_read range r s.storage⟩
  · use r, ?_, .refl _
    cases hq : s.reader? other with
    | none => rw [perform_of_reads_none hs hq, hr]
    | some r' => rw [perform_of_reads hs hq, reader?_replace_of_ne h, hr]

/-- The state of a reader goes forward as long as the reader is there. -/
theorem advances_perform (hr : s.reader? name = some r) (hk : step.Keeps name) :
  ∃ r', (s.perform step).2.reader? name = some r' ∧ Reader.Advances r.state r'.state
  := by
  cases step with
  | load base path =>
    use r, ?_, .refl _
    unfold perform
    simp only
    generalize FileMetadata.load base path s.storage = a
    obtain ⟨e | m, storage⟩ := a <;> exact hr
  | make other base m config =>
    exact ⟨r, (reader?_put_of_ne hk).trans ((closeReader_of_ne hk).trans hr), .refl _⟩
  | read other range => apply advances_of_reads (Step.reads_read other range) hr
  | readRecords other t range =>
    apply advances_of_reads (Step.reads_readRecords other t range) hr
  | close other =>
    by_cases h : other = name
    · subst h
      exact ⟨_, reader?_closeReader hr, .closes _⟩
    · exact ⟨r, (closeReader_of_ne h).trans hr, .refl _⟩
  | drop other =>
    exact ⟨r, (reader?_forget_of_ne hk).trans ((closeReader_of_ne hk).trans hr), .refl _⟩

theorem requests_of_reads (hs : step.Reads name range)
    (hu : ∀ r, s.reader? name = some r → r.state ≠ .unopened) :
  (s.perform step).2.storage.requests = s.storage.requests
  := by
  cases hr : s.reader? name with
  | none => rw [perform_of_reads_none hs hr]
  | some r =>
    rw [perform_of_reads hs hr]
    exact congrArg Books.requests (Reader.books_read range (hu r hr))

/-- No file is asked for but by loading metadata and by reading with an unopened reader. -/
theorem requests_perform (hl : ∀ base path, step ≠ .load base path)
    (hu : ∀ name range r, step.Reads name range → s.reader? name = some r →
      r.state ≠ .unopened) :
  (s.perform step).2.storage.requests = s.storage.requests
  := by
  cases step with
  | load base path => exact (hl base path rfl).elim
  | make name base m config => apply requests_closeReader s name
  | read name range =>
    have hs := Step.reads_read name range
    apply requests_of_reads hs fun r => hu name range r hs
  | readRecords name t range =>
    have hs := Step.reads_readRecords name t range
    apply requests_of_reads hs fun r => hu name range r hs
  | close name => apply requests_closeReader s name
  | drop name => apply requests_closeReader s name

/-- A reader that cannot be opened stays as it is, and no stream stays open for it. -/
theorem perform_of_unopened {e : Failure Error} (h : Settled s) (hs : step.Reads name range)
    (hr : s.reader? name = some r)
    (hc : Reader.checkRange r.metadata.recordCount range = .ok ())
    (ho : (Reader.ensureOpen r s.storage).1 = .error e) :
  (s.perform step).1 = .failed e ∧ (s.perform step).2.reader? name = some r
    ∧ (s.perform step).2.storage.inner.openStreams = s.storage.inner.openStreams
  := by
  have hq := Reader.read_eq_of_ensureOpen hc (Prod.ext ho rfl)
  have hp := perform_of_reads hs hr
  rw [hq] at hp
  refine ⟨answer_of_reads_error hs hr (congrArg Prod.fst hq), ?_, ?_⟩
  · rw [hp, reader?_replace]
  · rw [(settled_perform h step).openStreams_eq, h.openStreams_eq, ← length_held, ← length_held,
      (h.perm_held hr).length_eq, hp]
    rfl

/-- A reader that has been closed gives nothing and asks nothing of the storage. -/
theorem perform_of_closed (hs : step.Reads name range) (hr : s.reader? name = some r)
    (h : r.state = .closed) (hc : Reader.checkRange r.metadata.recordCount range = .ok ()) :
  (s.perform step).1 = .failed (.closed r.path) ∧ (s.perform step).2.storage = s.storage
  := by
  have hq := Reader.read_eq_of_closed (s := s.storage) h hc
  constructor
  · apply answer_of_reads_error hs hr (congrArg Prod.fst hq)
  · rw [perform_of_reads hs hr, hq]
    rfl

/-! ### Whole sessions -/

/-- The sessions that come about from one without readers by any steps, while the storage inside
may be changed from outside at any time. -/
inductive Reachable : Session (Ledger (Observed σ)) (Numbered τ) → Prop where
  | start (inner : σ) : Reachable (start (Ledger.start (Observed.start inner)))
  | step {s : Session (Ledger (Observed σ)) (Numbered τ)} (h : Reachable s) (step : Step) :
    Reachable (s.perform step).2
  | change {s : Session (Ledger (Observed σ)) (Numbered τ)} (h : Reachable s) (inner : σ) :
    Reachable
      { s with storage := { s.storage with inner := { s.storage.inner with inner := inner } } }

theorem settled_of_reachable (h : Reachable s) :
  Settled s
  := by
  induction h with
  | start inner => apply settled_start
  | step _ step ih => apply settled_perform ih step
  | change _ inner ih => apply ih.change inner

/-- Streams are in order, and whatever step comes next treats them and the readers well. -/
structure Orderly (s : Session (Ledger (Observed σ)) (Numbered τ)) : Prop where
  /-- The streams opened so far are those given back and those of the readers that are open. -/
  opens_eq : s.storage.inner.opens = s.storage.inner.releases + s.openReaders
  /-- The ledger knows of as many streams given back as have been counted. -/
  length_returned : s.storage.returned.length = s.storage.inner.releases
  /-- No stream has been given back twice. -/
  nodup_returned : s.storage.returned.Nodup
  /-- Only streams that have been opened have been given back. -/
  lt_opens : ∀ number ∈ s.storage.returned, number < s.storage.inner.opens
  /-- The stream of an open reader has not been given back, and no two readers share one. -/
  nodup_held : (s.held ++ s.storage.returned).Nodup
  /-- When no reader is open any more, all streams have been given back. -/
  opens_eq_releases : (∀ x ∈ s.readers, x.2.isOpen = false) →
    s.storage.inner.opens = s.storage.inner.releases
  /-- The state of a reader only goes forward. -/
  advances : ∀ step name r, s.reader? name = some r → step.Keeps name →
    ∃ r', (s.perform step).2.reader? name = some r' ∧ Reader.Advances r.state r'.state
  /-- A reader that is open or closed asks for no file. -/
  requests_eq : ∀ step : Step, (∀ base path, step ≠ .load base path) →
    (∀ name range r, step.Reads name range → s.reader? name = some r → r.state ≠ .unopened) →
    (s.perform step).2.storage.requests = s.storage.requests
  /-- A reader that cannot be opened stays as it is, and no stream stays open for it. -/
  of_unopened : ∀ step name range r e, step.Reads name range → s.reader? name = some r →
    Reader.checkRange r.metadata.recordCount range = .ok () →
    (Reader.ensureOpen r s.storage).1 = .error e →
    (s.perform step).1 = .failed e ∧ (s.perform step).2.reader? name = some r
      ∧ (s.perform step).2.storage.inner.openStreams = s.storage.inner.openStreams
  /-- A closed reader says that it is closed, and nothing is asked of the storage. -/
  of_closed : ∀ step name range r, step.Reads name range → s.reader? name = some r →
    r.state = .closed → Reader.checkRange r.metadata.recordCount range = .ok () →
    (s.perform step).1 = .failed (.closed r.path) ∧ (s.perform step).2.storage = s.storage
  /-- Closing a reader twice is closing it once. -/
  close_close : ∀ name, ((s.perform (.close name)).2.perform (.close name)).2
    = (s.perform (.close name)).2
  /-- Dropping a reader that has been closed gives nothing back. -/
  drop_close : ∀ name, ((s.perform (.close name)).2.perform (.drop name)).2.storage
    = (s.perform (.close name)).2.storage

/-- Streams are in order all along, for any number of readers and loads and whatever fails. -/
theorem orderly_of_reachable (h : Reachable s) :
  Orderly s
  := by
  have hs := settled_of_reachable h
  constructor
  case opens_eq => apply hs.opens_eq
  case length_returned => exact hs.balanced.releases_eq.symm
  case nodup_returned => apply hs.balanced.nodup_returned
  case lt_opens =>
    intro number hn
    rw [show s.storage.inner.opens = s.storage.opened from hs.balanced.opens_eq]
    apply hs.balanced.lt_opened hn
  case nodup_held => apply hs.balanced.nodup
  case opens_eq_releases =>
    intro hn
    have ho : s.openReaders = 0 := by
      rw [openReaders, List.length_eq_zero_iff, List.filter_eq_nil_iff]
      intro x hx
      rw [hn x hx]
      exact Bool.false_ne_true
    rw [hs.opens_eq, ho, Nat.add_zero]
  case advances => exact fun _ _ _ => advances_perform
  case requests_eq => exact fun _ => requests_perform
  case of_unopened => exact fun _ _ _ _ _ => perform_of_unopened hs
  case of_closed => exact fun _ _ _ _ => perform_of_closed
  case close_close => exact closeReader_closeReader s
  case drop_close =>
    intro name
    show ((s.closeReader name).closeReader name).storage = (s.closeReader name).storage
    rw [closeReader_closeReader]

end Runs

/-- A session that loads the metadata of the sample file, reads some rows and loses the file. -/
def numberSession : Session (Ledger (Observed MemoryStore)) (Numbered MemoryStream) :=
  let s := ((start (Ledger.start (Observed.start Sample.numberStore))).perform (.load "" "n")).2
  let s := (s.perform (.make "r" "" Sample.numberMetadata ⟨true, true⟩)).2
  let s := (s.perform (.read "r" ⟨1, 3⟩)).2
  { s with storage := { s.storage with inner := { s.storage.inner with inner := .empty } } }

theorem reachable_numberSession :
  Reachable numberSession
  := .change (.step (.step (.step (.start _) _) _) _) _

/-- Its streams are in order, and after another load and a close they are all given back. -/
theorem orderly_numberSession :
  Orderly numberSession
    ∧ Orderly ((numberSession.perform (.load "" "n")).2.perform (.close "r")).2
  where
  left := orderly_of_reachable reachable_numberSession
  right := orderly_of_reachable (.step (.step reachable_numberSession _) _)

end Session

end BatchFile
