/-
  File:      MavlinkServer/Ftp/Once.lean
  Subject:   A COMPLETED DOWNLOAD IS HANDED OUT ONCE, in every interleaving of
             its task with the calls for it.

  * `Download.Agrees` -- a session says what its task has stored;
  * `CallOk` -- what a call has seen; it is still so in every later state
    (`CallOk.grows`);
  * `Keeps` -- what every step does to the sessions and the map;
  * `HandoutInv` -- the invariant of a run;
  * `taken_once` -- the theorem.
-/
import MavlinkServer.Ftp.Handout
import MavlinkServer.Ftp.Download

namespace MavlinkServer.Ftp

open Lib

/-! ## 1. What a session has come to -/

/-- What a session has come to, it keeps. -/
structure Download.Later (d d' : Download) : Prop where
  id : d'.id = d.id
  target : d'.target = d.target
  path : d'.path = d.path
  inserted : d.task ≠ .inserting → d'.task ≠ .inserting
  finished : ∀ r, d.task = .finished r → d'.task = .finished r
  emptied : ∀ r, d.task = .finished r → d.session.data = none → d'.session.data = none

theorem Download.Later.refl (d : Download) : d.Later d :=
  ⟨rfl, rfl, rfl, fun h => h, fun _ h => h, fun _ _ h => h⟩

/-- While the task is at work there is nothing to keep but that the download is in the map. -/
theorem Download.Later.running {d d' : Download} (hid : d'.id = d.id) (ht : d'.target = d.target)
    (hp : d'.path = d.path) (hins : d.task ≠ .inserting → d'.task ≠ .inserting)
    (hfin : ∀ r, d.task ≠ .finished r) : d.Later d' :=
  ⟨hid, ht, hp, hins, fun r hr => absurd hr (hfin r), fun r hr => absurd hr (hfin r)⟩

/-- The session says what the task has stored; only the data of a finished task may be gone. -/
def Download.Agrees (d : Download) : Prop :=
  match d.task with
  | .inserting => d.session.data = none ∧ d.session.status = .downloading
  | .reading => d.session.data = none ∧ d.session.status = .downloading
  | .returned _ => d.session.data = none ∧ d.session.status = .downloading
  | .stored (.ok data) => d.session.data = some data ∧ d.session.status = .downloading
  | .stored (.error _) => d.session.data = none ∧ d.session.status = .downloading
  | .finished (.ok data) =>
      (d.session.data = some data ∨ d.session.data = none) ∧ d.session.status = .complete
  | .finished (.error _) => d.session.data = none ∧ d.session.status = .error

def TaskPhase.result? : TaskPhase → Option (Except FtpFailure (List UInt8))
  | .inserting => none
  | .reading => none
  | .returned result => some result
  | .stored result => some result
  | .finished result => some result

/-- The bytes the task has are those its read returned. -/
def Download.FromRead (d : Download) : Prop :=
  ∀ data, d.task.result? = some (.ok data) →
    ∃ w, (readFileWithProgress d.target d.path w).1 = .ok data

/-- **One step of the task**: it never goes back, and the session follows it. -/
theorem Download.work_spec {d d' : Download} {input : TaskInput} (h : d.work input = some d') :
    d.Later d' ∧ (d.Agrees → d'.Agrees) ∧ (d.FromRead → d'.FromRead) := by
  cases input with
  | progress value =>
      simp only [work] at h
      split at h
      · rename_i ht
        cases h
        refine ⟨.running rfl rfl rfl (fun h => h) (by simp [ht]), fun ha => ?_, fun hf => hf⟩
        simpa only [Agrees, ht] using ha
      · cases h
  | read w =>
      simp only [work] at h
      split at h
      · rename_i data ht hr
        cases h
        refine ⟨.running rfl rfl rfl (by simp) (by simp [ht]), fun ha => ?_,
          fun _ data' hdata => ?_⟩
        · simpa only [Agrees, ht] using ha
        · cases hdata
          exact ⟨w, hr⟩
      · rename_i error ht hr
        cases h
        refine ⟨.running rfl rfl rfl (by simp) (by simp [ht]), fun ha => ?_,
          fun _ data' hdata => ?_⟩
        · simpa only [Agrees, ht] using ha
        · cases hdata
      · cases h
  | store =>
      simp only [work] at h
      split at h
      · rename_i data ht
        cases h
        refine ⟨.running rfl rfl rfl (by simp) (by simp [ht]), fun ha => ?_,
          fun hf data' hdata => ?_⟩
        · simp only [Agrees, ht] at ha
          exact ⟨rfl, ha.2⟩
        · exact hf data' (by rw [ht]; exact hdata)
      · rename_i error ht
        cases h
        refine ⟨.running rfl rfl rfl (by simp) (by simp [ht]), fun ha => ?_,
          fun _ data' hdata => ?_⟩
        · simpa only [Agrees, ht] using ha
        · cases hdata
      · rename_i data ht
        cases h
        refine ⟨.running rfl rfl rfl (by simp) (by simp [ht]), fun ha => ?_,
          fun hf data' hdata => ?_⟩
        · simp only [Agrees, ht] at ha
          exact ⟨Or.inl ha.1, rfl⟩
        · exact hf data' (by rw [ht]; exact hdata)
      · rename_i error ht
        cases h
        refine ⟨.running rfl rfl rfl (by simp) (by simp [ht]), fun ha => ?_,
          fun _ data' hdata => ?_⟩
        · simp only [Agrees, ht] at ha
          exact ⟨ha.1, rfl⟩
        · cases hdata
      · cases h

/-- A finished session that says Complete has read its bytes. -/
theorem Download.Agrees.complete {d : Download} (h : d.Agrees) (hs : d.session.status = .complete) :
    ∃ data, d.task = .finished (.ok data) := by
  unfold Agrees at h
  split at h
  · rw [hs] at h; cases h.2
  · rw [hs] at h; cases h.2
  · rw [hs] at h; cases h.2
  · rw [hs] at h; cases h.2
  · rw [hs] at h; cases h.2
  · rename_i data ht
    exact ⟨data, ht⟩
  · rw [hs] at h; cases h.2

/-- Handing out the data of a download leaves the rest as it is. -/
theorem Download.later_emptied (d : Download) :
    d.Later { d with session := { d.session with data := none } } :=
  ⟨rfl, rfl, rfl, fun h => h, fun _ h => h, fun _ _ _ => rfl⟩

/-! ## 2. What the calls have seen -/

namespace Downloads

variable {s s' : Downloads} {a : DownloadAction} {id : DownloadId} {data : List UInt8}

/-- The session of this place has this id. -/
def Named (s : Downloads) (k : Nat) (id : DownloadId) : Prop :=
  ∃ d : Download, s.sessions[k]? = some d ∧ d.id = id

/-- The task of `id` has stored these bytes, and then Complete. -/
def Completed (s : Downloads) (id : DownloadId) (data : List UInt8) : Prop :=
  ∃ (k : Nat) (d : Download), s.sessions[k]? = some d ∧ d.id = id ∧ d.task = .finished (.ok data)

/-- … and they are handed out. -/
def Emptied (s : Downloads) (id : DownloadId) (data : List UInt8) : Prop :=
  ∃ (k : Nat) (d : Download), s.sessions[k]? = some d ∧ d.id = id ∧ d.task = .finished (.ok data) ∧
    d.session.data = none

/-- The download was in the map and is not any more. -/
def Gone (s : Downloads) (id : DownloadId) : Prop :=
  s.active id = none ∧ ∃ (k : Nat) (d : Download),
    s.sessions[k]? = some d ∧ d.id = id ∧ d.task ≠ .inserting

/-- What a call of `get_download_progress` has seen. -/
def ProgressOk (s : Downloads) (id : DownloadId) : ProgressPhase → Prop
  | .asked => True
  | .found k => s.Named k id
  | .status k status => s.Named k id ∧ (status = .complete → ∃ data, s.Completed id data)
  | .returned none => True
  | .returned (some p) => p.status = .complete → ∃ data, s.Completed id data

/-- What a call of `take_download_data` has seen and done. -/
def TakeOk (s : Downloads) (id : DownloadId) : TakePhase → Prop
  | .asked => True
  | .found k => s.Named k id
  | .complete k => s.Named k id ∧ ∃ data, s.Completed id data
  | .taken _ data => s.Emptied id data
  | .returned none => True
  | .returned (some (_, data)) => s.Emptied id data ∧ s.Gone id

def CallOk (s : Downloads) (c : DownloadCall) : Prop :=
  match c.phase with
  | .progress phase => s.ProgressOk c.id phase
  | .take phase => s.TakeOk c.id phase
  | .cancelled => True

/-- The sessions of `s` are there in `s'`, each further on. -/
def Grows (s s' : Downloads) : Prop :=
  ∀ (k : Nat) (d : Download), s.sessions[k]? = some d → ∃ d', s'.sessions[k]? = some d' ∧ d.Later d'

theorem Named.grows {k : Nat} (hg : s.Grows s') (h : s.Named k id) : s'.Named k id := by
  obtain ⟨d, hd, rfl⟩ := h
  obtain ⟨d', hd', hlater⟩ := hg k d hd
  exact ⟨d', hd', hlater.id⟩

theorem Completed.grows (hg : s.Grows s') (h : s.Completed id data) : s'.Completed id data := by
  obtain ⟨k, d, hd, rfl, ht⟩ := h
  obtain ⟨d', hd', hlater⟩ := hg k d hd
  exact ⟨k, d', hd', hlater.id, hlater.finished _ ht⟩

theorem Emptied.grows (hg : s.Grows s') (h : s.Emptied id data) : s'.Emptied id data := by
  obtain ⟨k, d, hd, rfl, ht, hnone⟩ := h
  obtain ⟨d', hd', hlater⟩ := hg k d hd
  exact ⟨k, d', hd', hlater.id, hlater.finished _ ht, hlater.emptied _ ht hnone⟩

/-- **What a call has seen is still so.** -/
theorem CallOk.grows {c : DownloadCall} (hg : s.Grows s') (hgone : s.Gone c.id → s'.Gone c.id)
    (h : s.CallOk c) : s'.CallOk c := by
  obtain ⟨id, phase⟩ := c
  rcases phase with phase | phase | _
  · rcases phase with _ | k | ⟨k, status⟩ | _ | p
    · trivial
    · exact Named.grows hg h
    · exact ⟨Named.grows hg h.1, fun hc => (h.2 hc).imp fun _ => Completed.grows hg⟩
    · trivial
    · exact fun hc => (h hc).imp fun _ => Completed.grows hg
  · rcases phase with _ | k | k | ⟨filename, data⟩ | _ | ⟨filename, data⟩
    · trivial
    · exact Named.grows hg h
    · exact ⟨Named.grows hg h.1, h.2.imp fun _ => Completed.grows hg⟩
    · exact Emptied.grows hg h
    · trivial
    · exact ⟨Emptied.grows hg h.1, hgone h.2⟩
  · trivial

theorem grows_set {k : Nat} {d d' : Download} (hd : s.sessions[k]? = some d) (hlater : d.Later d')
    (hs : s'.sessions = s.sessions.set k d') : s.Grows s' := by
  intro l e he
  rw [hs, List.getElem?_set]
  by_cases hkl : k = l
  · subst hkl
    rw [hd] at he
    cases he
    obtain ⟨hlt, _⟩ := List.getElem?_eq_some_iff.mp hd
    exact ⟨d', by rw [if_pos rfl, if_pos hlt], hlater⟩
  · exact ⟨e, by rw [if_neg hkl, he], .refl e⟩

theorem grows_append {d : Download} (hs : s'.sessions = s.sessions ++ [d]) : s.Grows s' := by
  intro l e he
  obtain ⟨hlt, _⟩ := List.getElem?_eq_some_iff.mp he
  exact ⟨e, by rw [hs, List.getElem?_append_left hlt, he], .refl e⟩

theorem grows_same (hs : s'.sessions = s.sessions) : s.Grows s' :=
  fun _ e he => ⟨e, by rw [hs, he], .refl e⟩

/-! ## 3. What one step keeps -/

structure SessionsInv (s : Downloads) : Prop where
  ids : ∀ (k l : Nat) (d e : Download), s.sessions[k]? = some d → s.sessions[l]? = some e →
    d.id = e.id → k = l
  agrees : ∀ (k : Nat) (d : Download), s.sessions[k]? = some d → d.Agrees
  fromRead : ∀ (k : Nat) (d : Download), s.sessions[k]? = some d → d.FromRead
  active : ∀ (id : DownloadId) (k : Nat), s.active id = some k →
    ∃ d : Download, s.sessions[k]? = some d ∧ d.id = id ∧ d.task ≠ .inserting

/-- What every step does to the sessions and the map. -/
structure Keeps (s s' : Downloads) : Prop where
  inv : s'.SessionsInv
  grows : s.Grows s'
  gone : ∀ id, s.Gone id → s'.Gone id

theorem Gone.grows (hg : s.Grows s') (ha : s'.active id = none) (h : s.Gone id) : s'.Gone id := by
  obtain ⟨_, k, d, hd, rfl, ht⟩ := h
  obtain ⟨d', hd', hlater⟩ := hg k d hd
  exact ⟨ha, k, d', hd', hlater.id, hlater.inserted ht⟩

theorem Keeps.same (hi : s.SessionsInv) (hs : s'.sessions = s.sessions)
    (ha : s'.active = s.active) : s.Keeps s' := by
  have hg : s.Grows s' := grows_same hs
  refine ⟨⟨?_, ?_, ?_, ?_⟩, hg, fun id h => h.grows hg (by rw [ha]; exact h.1)⟩
  · rw [hs]; exact hi.ids
  · rw [hs]; exact hi.agrees
  · rw [hs]; exact hi.fromRead
  · rw [hs, ha]; exact hi.active

/-- One session goes on. -/
theorem sessionsInv_set {k : Nat} {d d' : Download} (hi : s.SessionsInv)
    (hd : s.sessions[k]? = some d) (hlater : d.Later d') (hagrees : d'.Agrees)
    (hread : d'.FromRead) (hs : s'.sessions = s.sessions.set k d')
    (ha : ∀ id l, s'.active id = some l → s.active id = some l ∨
      (id = d.id ∧ l = k ∧ d'.task ≠ .inserting)) : s'.SessionsInv := by
  have hback : ∀ (l : Nat) (e : Download), s'.sessions[l]? = some e →
      (l = k ∧ e = d') ∨ s.sessions[l]? = some e := by
    intro l e he
    rw [hs, List.getElem?_set] at he
    split at he
    · split at he
      · rename_i hkl _
        exact Or.inl ⟨hkl.symm, (Option.some.inj he).symm⟩
      · cases he
    · exact Or.inr he
  refine ⟨fun l m e f he hf hid => ?_, fun l e he => ?_, fun l e he => ?_, fun id l hl => ?_⟩
  · rcases hback l e he with ⟨rfl, rfl⟩ | he
    · rcases hback m f hf with ⟨rfl, rfl⟩ | hf
      · rfl
      · exact hi.ids l m d f hd hf (by rw [← hlater.id, hid])
    · rcases hback m f hf with ⟨rfl, rfl⟩ | hf
      · exact hi.ids l m e d he hd (by rw [hid, hlater.id])
      · exact hi.ids l m e f he hf hid
  · rcases hback l e he with ⟨_, rfl⟩ | he
    · exact hagrees
    · exact hi.agrees l e he
  · rcases hback l e he with ⟨_, rfl⟩ | he
    · exact hread
    · exact hi.fromRead l e he
  · rcases ha id l hl with hl | ⟨rfl, rfl, hins⟩
    · obtain ⟨e, he, hid, hins⟩ := hi.active id l hl
      obtain ⟨e', he', hlater'⟩ := grows_set hd hlater hs l e he
      exact ⟨e', he', by rw [hlater'.id, hid], hlater'.inserted hins⟩
    · obtain ⟨hlt, _⟩ := List.getElem?_eq_some_iff.mp hd
      exact ⟨d', by rw [hs, List.getElem?_set, if_pos rfl, if_pos hlt], hlater.id, hins⟩

theorem Keeps.set {k : Nat} {d d' : Download} (hi : s.SessionsInv) (hd : s.sessions[k]? = some d)
    (hlater : d.Later d') (hagrees : d'.Agrees) (hread : d'.FromRead)
    (hs : s'.sessions = s.sessions.set k d') (ha : s'.active = s.active) : s.Keeps s' := by
  have hg : s.Grows s' := grows_set hd hlater hs
  refine ⟨?_, hg, fun id h => h.grows hg (by rw [ha]; exact h.1)⟩
  exact sessionsInv_set hi hd hlater hagrees hread hs fun id l hl => Or.inl (by rw [← ha]; exact hl)

theorem keeps_start {target : Target} {path : List UInt8} {fileSize : UInt64}
    (hi : s.SessionsInv) (hnew : ∀ d ∈ s.sessions, d.id ≠ id) :
    s.Keeps { s with sessions := s.sessions ++ [.new id target path fileSize] } := by
  have hg : s.Grows { s with sessions := s.sessions ++ [.new id target path fileSize] } :=
    grows_append rfl
  have hback : ∀ (l : Nat) (e : Download),
      (s.sessions ++ [Download.new id target path fileSize])[l]? = some e →
        s.sessions[l]? = some e ∨ (l = s.sessions.length ∧ e = .new id target path fileSize) := by
    intro l e he
    rw [List.getElem?_append] at he
    split at he
    · exact Or.inl he
    · rename_i hge
      obtain ⟨hlt, he⟩ := List.getElem?_eq_some_iff.mp he
      simp only [List.length_singleton] at hlt
      simp only [List.getElem_singleton] at he
      exact Or.inr ⟨by omega, he.symm⟩
  have hother : ∀ (l : Nat) (e : Download), s.sessions[l]? = some e → e.id ≠ id :=
    fun l e he => hnew e (List.mem_of_getElem? he)
  refine ⟨⟨fun l m e f he hf hid => ?_, fun l e he => ?_, fun l e he => ?_, fun id' l hl => ?_⟩, hg,
    fun id' h => h.grows hg h.1⟩
  · rcases hback l e he with he | ⟨rfl, rfl⟩
    · rcases hback m f hf with hf | ⟨rfl, rfl⟩
      · exact hi.ids l m e f he hf hid
      · exact absurd hid (hother l e he)
    · rcases hback m f hf with hf | ⟨rfl, rfl⟩
      · exact absurd hid.symm (hother m f hf)
      · rfl
  · rcases hback l e he with he | ⟨_, rfl⟩
    · exact hi.agrees l e he
    · exact ⟨rfl, rfl⟩
  · rcases hback l e he with he | ⟨_, rfl⟩
    · exact hi.fromRead l e he
    · intro data hdata
      cases hdata
  · obtain ⟨e, he, hid, hins⟩ := hi.active id' l hl
    obtain ⟨e', he', hlater⟩ := hg l e he
    exact ⟨e', he', by rw [hlater.id, hid], hlater.inserted hins⟩

theorem keeps_insert {k : Nat} {d : Download} (hi : s.SessionsInv) (hd : s.sessions[k]? = some d)
    (h : s.insert k d = some s') : s.Keeps s' ∧ s'.calls = s.calls := by
  unfold insert at h
  split at h
  · rename_i ht
    split at h
    · cases h
      have hlater : d.Later { d with task := .reading } :=
        .running rfl rfl rfl (by simp) (by simp [ht])
      have hagrees := hi.agrees k d hd
      have hg : s.Grows { s with
          sessions := s.sessions.set k { d with task := .reading }
          active := Function.update s.active d.id (some k) } := grows_set hd hlater rfl
      refine ⟨⟨sessionsInv_set hi hd hlater ?_ ?_ rfl fun id l hl => ?_, hg, fun id hgone => ?_⟩,
        rfl⟩
      · simpa only [Download.Agrees, ht] using hagrees
      · intro data hdata
        cases hdata
      · dsimp only at hl
        by_cases hid : id = d.id
        · subst hid
          rw [Function.update_self] at hl
          exact Or.inr ⟨rfl, (Option.some.inj hl).symm, by simp⟩
        · rw [Function.update_of_ne hid] at hl
          exact Or.inl hl
      · refine hgone.grows hg ?_
        obtain ⟨hnone, l, e, he, rfl, hins⟩ := hgone
        have hne : e.id ≠ d.id := by
          intro hid
          obtain rfl := hi.ids l k e d he hd hid
          rw [hd] at he
          cases he
          exact hins ht
        exact (Function.update_of_ne hne _ _).trans hnone
    · cases h
  · cases h

theorem progress_ok {phase phase' : ProgressPhase} (hi : s.SessionsInv)
    (h : s.getDownloadProgress id phase = some phase') (hok : s.ProgressOk id phase) :
    s.ProgressOk id phase' := by
  rcases phase with _ | k | ⟨k, status⟩ | _
  · simp only [getDownloadProgress] at h
    split at h
    · cases h
      trivial
    · rename_i k hk
      cases h
      exact (hi.active id k hk).imp fun d hd => ⟨hd.1, hd.2.1⟩
  · obtain ⟨d, hd, rfl⟩ := Option.map_eq_some_iff.mp h
    refine ⟨hok, fun hcomplete => ?_⟩
    obtain ⟨d', hd', hid⟩ := hok
    rw [hd] at hd'
    cases hd'
    obtain ⟨data, ht⟩ := (hi.agrees k d hd).complete hcomplete
    exact ⟨data, k, d, hd, hid, ht⟩
  · obtain ⟨d, _, rfl⟩ := Option.map_eq_some_iff.mp h
    exact hok.2
  · cases h

/-- **One step of `take_download_data`.** Bytes come into its hands only from a session that still
    had them. -/
theorem take_spec {phase phase' : TakePhase} (hi : s.SessionsInv)
    (h : s.takeDownloadData id phase = some (phase', s')) (hok : s.TakeOk id phase) :
    s.Keeps s' ∧ s'.calls = s.calls ∧ s'.TakeOk id phase' ∧
      (phase'.handed = phase.handed ∨ ∃ (k : Nat) (d : Download),
        s.sessions[k]? = some d ∧ d.id = id ∧ d.session.data ≠ none) := by
  rcases phase with _ | k | k | ⟨filename, data⟩ | _
  · simp only [takeDownloadData] at h
    split at h
    · cases h
      exact ⟨.same hi rfl rfl, rfl, trivial, Or.inl rfl⟩
    · rename_i k hk
      cases h
      exact ⟨.same hi rfl rfl, rfl, (hi.active id k hk).imp fun d hd => ⟨hd.1, hd.2.1⟩, Or.inl rfl⟩
  · obtain ⟨d, hd, h⟩ := Option.map_eq_some_iff.mp h
    split at h
    · cases h
      exact ⟨.same hi rfl rfl, rfl, trivial, Or.inl rfl⟩
    · rename_i hcomplete
      cases h
      obtain ⟨data, ht⟩ := (hi.agrees k d hd).complete (Decidable.not_not.mp hcomplete)
      obtain ⟨d', hd', hid⟩ := hok
      rw [hd] at hd'
      cases hd'
      exact ⟨.same hi rfl rfl, rfl, ⟨⟨d, hd, hid⟩, data, k, d, hd, hid, ht⟩, Or.inl rfl⟩
  · obtain ⟨d, hd, h⟩ := Option.map_eq_some_iff.mp h
    split at h
    · cases h
      exact ⟨.same hi rfl rfl, rfl, trivial, Or.inl rfl⟩
    · rename_i data hdata
      cases h
      obtain ⟨⟨d', hd', hid⟩, bytes, l, e, he, heid, ht⟩ := hok
      rw [hd] at hd'
      cases hd'
      obtain rfl := hi.ids k l d e hd he (by rw [hid, heid])
      rw [hd] at he
      cases he
      have hagrees := hi.agrees k d hd
      simp only [Download.Agrees, ht, hdata, Option.some.injEq, reduceCtorEq, or_false] at hagrees
      obtain ⟨rfl, hstatus⟩ := hagrees
      have hkeeps : s.Keeps { s with
          sessions := s.sessions.set k { d with session := { d.session with data := none } } } :=
        .set hi hd d.later_emptied (by simp [Download.Agrees, ht, hstatus]) (hi.fromRead k d hd)
          rfl rfl
      obtain ⟨hlt, _⟩ := List.getElem?_eq_some_iff.mp hd
      refine ⟨hkeeps, rfl, ?_, Or.inr ⟨k, d, hd, hid, by simp [hdata]⟩⟩
      refine ⟨k, { d with session := { d.session with data := none } }, ?_, hid, ht, rfl⟩
      rw [List.getElem?_set, if_pos rfl, if_pos hlt]
  · simp only [takeDownloadData] at h
    split at h
    · cases h
      have hg : s.Grows { s with active := Function.update s.active id none } := grows_same rfl
      have hinv : SessionsInv { s with active := Function.update s.active id none } := by
        refine ⟨hi.ids, hi.agrees, hi.fromRead, fun id' l hl => ?_⟩
        dsimp only at hl
        by_cases hid : id' = id
        · subst hid
          rw [Function.update_self] at hl
          cases hl
        · rw [Function.update_of_ne hid] at hl
          exact hi.active id' l hl
      have hgone : ∀ id', s.Gone id' →
          Gone { s with active := Function.update s.active id none } id' := by
        intro id' hgone
        refine hgone.grows hg ?_
        by_cases hid : id' = id
        · subst hid
          exact Function.update_self ..
        · exact (Function.update_of_ne hid ..).trans hgone.1
      refine ⟨⟨hinv, hg, hgone⟩, rfl, ⟨hok.grows hg, ?_⟩, Or.inl rfl⟩
      obtain ⟨k, d, hd, hid, ht, _⟩ := hok
      exact ⟨Function.update_self .., k, d, hd, hid, by simp [ht]⟩
    · cases h
  · cases h

/-! ## 4. Every run -/

/-- **The invariant of a run.** -/
structure HandoutInv (s : Downloads) : Prop where
  sessions : s.SessionsInv
  calls : ∀ (i : Nat) (c : DownloadCall), s.calls[i]? = some c → s.CallOk c
  once : ∀ (i j : Nat) (c e : DownloadCall), s.calls[i]? = some c → s.calls[j]? = some e →
    c.handed.isSome = true → e.handed.isSome = true → c.id = e.id → i = j

/-- Bytes in a call's hands have left their session. -/
theorem CallOk.emptied {c : DownloadCall} (h : s.CallOk c) (hh : c.handed = some data) :
    s.Emptied c.id data := by
  obtain ⟨id, phase⟩ := c
  rcases phase with _ | phase | _
  · cases hh
  · rcases phase with _ | k | k | ⟨filename, bytes⟩ | _ | ⟨filename, bytes⟩
    · cases hh
    · cases hh
    · cases hh
    · cases hh
      exact h
    · cases hh
    · cases hh
      exact h.1
  · cases hh

theorem inv_append {c : DownloadCall} (hi : s.HandoutInv) (hk : s.Keeps s')
    (hs : s'.calls = s.calls ++ [c]) (hok : s'.CallOk c) (hnone : c.handed = none) :
    s'.HandoutInv := by
  have hback : ∀ (i : Nat) (e : DownloadCall), s'.calls[i]? = some e →
      s.calls[i]? = some e ∨ e = c := by
    intro i e he
    rw [hs, List.getElem?_append] at he
    split at he
    · exact Or.inl he
    · exact Or.inr (List.mem_singleton.mp (List.mem_of_getElem? he))
  have hold : ∀ (i : Nat) (e : DownloadCall), s'.calls[i]? = some e → e.handed.isSome = true →
      s.calls[i]? = some e := by
    intro i e he hh
    rcases hback i e he with he | rfl
    · exact he
    · rw [hnone] at hh
      cases hh
  refine ⟨hk.inv, fun i e he => ?_, fun i j e f he hf hh hh' hid => ?_⟩
  · rcases hback i e he with he | rfl
    · exact (hi.calls i e he).grows hk.grows (hk.gone e.id)
    · exact hok
  · exact hi.once i j e f (hold i e he hh) (hold j f hf hh') hh hh' hid

theorem inv_set {i : Nat} {c c' : DownloadCall} (hi : s.HandoutInv) (hk : s.Keeps s')
    (hc : s.calls[i]? = some c) (hs : s'.calls = s.calls.set i c') (hid : c'.id = c.id)
    (hok : s'.CallOk c')
    (hnew : c'.handed.isSome = true → c.handed.isSome = true ∨
      ∀ (j : Nat) (e : DownloadCall), s.calls[j]? = some e → e.handed.isSome = true → e.id ≠ c.id) :
    s'.HandoutInv := by
  have hback : ∀ (j : Nat) (e : DownloadCall), s'.calls[j]? = some e →
      (j = i ∧ e = c') ∨ s.calls[j]? = some e := by
    intro j e he
    rw [hs, List.getElem?_set] at he
    split at he
    · split at he
      · rename_i hij _
        exact Or.inl ⟨hij.symm, (Option.some.inj he).symm⟩
      · cases he
    · exact Or.inr he
  have hone : ∀ (j : Nat) (e : DownloadCall), s.calls[j]? = some e → e.handed.isSome = true →
      c'.handed.isSome = true → c'.id = e.id → i = j := by
    intro j e he hh hh' hids
    rcases hnew hh' with hheld | hnone
    · exact hi.once i j c e hc he hheld hh (by rw [← hid, hids])
    · exact absurd (by rw [← hids, hid]) (hnone j e he hh)
  refine ⟨hk.inv, fun j e he => ?_, fun j l e f he hf hh hh' hids => ?_⟩
  · rcases hback j e he with ⟨_, rfl⟩ | he
    · exact hok
    · exact (hi.calls j e he).grows hk.grows (hk.gone e.id)
  · rcases hback j e he with ⟨rfl, rfl⟩ | he
    · rcases hback l f hf with ⟨rfl, rfl⟩ | hf
      · rfl
      · exact hone l f hf hh' hh hids
    · rcases hback l f hf with ⟨rfl, rfl⟩ | hf
      · exact (hone j e he hh hh' hids.symm).symm
      · exact hi.once j l e f he hf hh hh' hids

/-- A session that still has its bytes: no call has them in hand. -/
theorem HandoutInv.nobody {k : Nat} {d : Download} (hi : s.HandoutInv)
    (hd : s.sessions[k]? = some d) (hdata : d.session.data ≠ none) (j : Nat) (e : DownloadCall)
    (he : s.calls[j]? = some e) (hh : e.handed.isSome = true) : e.id ≠ d.id := by
  obtain ⟨data, hhanded⟩ := Option.isSome_iff_exists.mp hh
  obtain ⟨l, f, hf, hfid, _, hnone⟩ := (hi.calls j e he).emptied hhanded
  intro hid
  obtain rfl := hi.sessions.ids k l d f hd hf (by rw [hfid, hid])
  rw [hd] at hf
  cases hf
  exact hdata hnone

theorem handoutInv_advance {i : Nat} {c : DownloadCall} (hi : s.HandoutInv)
    (hc : s.calls[i]? = some c) (h : s.advance i c = some s') : s'.HandoutInv ∧ s.Keeps s' := by
  obtain ⟨id, phase⟩ := c
  have hok := hi.calls i _ hc
  rcases phase with phase | phase | _
  · obtain ⟨phase', hphase, rfl⟩ := Option.map_eq_some_iff.mp h
    have hk : s.Keeps { s with calls := s.calls.set i ⟨id, .progress phase'⟩ } :=
      .same hi.sessions rfl rfl
    have hok' : s.ProgressOk id phase' := progress_ok hi.sessions hphase hok
    refine ⟨inv_set hi hk hc rfl rfl hok' fun hh => ?_, hk⟩
    cases hh
  · obtain ⟨⟨phase', s1⟩, hphase, rfl⟩ := Option.map_eq_some_iff.mp h
    obtain ⟨hkeeps, hcalls, hok', hhanded⟩ := take_spec hi.sessions hphase hok
    have hk : s.Keeps { s1 with calls := s.calls.set i ⟨id, .take phase'⟩ } :=
      ⟨⟨hkeeps.inv.ids, hkeeps.inv.agrees, hkeeps.inv.fromRead, hkeeps.inv.active⟩,
        hkeeps.grows, hkeeps.gone⟩
    refine ⟨inv_set hi hk hc rfl rfl hok' fun hh => ?_, hk⟩
    rcases hhanded with hsame | ⟨k, d, hd, hid, hdata⟩
    · exact Or.inl (by rw [← hh]; exact congrArg Option.isSome hsame.symm)
    · exact Or.inr fun j e he hheld => hid ▸ hi.nobody hd hdata j e he hheld
  · cases h

theorem handoutInv_new : new.HandoutInv := by
  refine ⟨⟨fun k l d e hd => ?_, fun k d hd => ?_, fun k d hd => ?_, fun id k hk => ?_⟩,
    fun i c hc => ?_, fun i j c e hc => ?_⟩
  all_goals simp [new] at *

/-- **One step keeps the invariant.** -/
theorem handoutInv_step (hi : s.HandoutInv) (hnew : s.NewIds a) (h : s.step a = some s') :
    s'.HandoutInv ∧ s.Keeps s' := by
  cases a with
  | start id target path fileSize =>
      cases h
      have hk : s.Keeps { s with sessions := s.sessions ++ [.new id target path fileSize] } :=
        keeps_start hi.sessions hnew
      exact ⟨⟨hk.inv, fun i c hc => (hi.calls i c hc).grows hk.grows (hk.gone c.id), hi.once⟩, hk⟩
  | insert k =>
      obtain ⟨d, hd, h⟩ := Option.bind_eq_some_iff.mp h
      obtain ⟨hk, hcalls⟩ := keeps_insert hi.sessions hd h
      refine ⟨⟨hk.inv, fun i c hc => ?_, ?_⟩, hk⟩
      · rw [hcalls] at hc
        exact (hi.calls i c hc).grows hk.grows (hk.gone c.id)
      · rw [hcalls]
        exact hi.once
  | work k input =>
      obtain ⟨d, hd, h⟩ := Option.bind_eq_some_iff.mp h
      obtain ⟨d', hd', rfl⟩ := Option.map_eq_some_iff.mp h
      obtain ⟨hlater, hagrees, hread⟩ := Download.work_spec hd'
      have hk : s.Keeps { s with sessions := s.sessions.set k d' } :=
        .set hi.sessions hd hlater (hagrees (hi.sessions.agrees k d hd))
          (hread (hi.sessions.fromRead k d hd)) rfl rfl
      exact ⟨⟨hk.inv, fun i c hc => (hi.calls i c hc).grows hk.grows (hk.gone c.id), hi.once⟩, hk⟩
  | askProgress id =>
      cases h
      have hk : s.Keeps { s with calls := s.calls ++ [⟨id, .progress .asked⟩] } :=
        .same hi.sessions rfl rfl
      exact ⟨inv_append hi hk rfl trivial rfl, hk⟩
  | askData id =>
      cases h
      have hk : s.Keeps { s with calls := s.calls ++ [⟨id, .take .asked⟩] } :=
        .same hi.sessions rfl rfl
      exact ⟨inv_append hi hk rfl trivial rfl, hk⟩
  | advance i =>
      obtain ⟨c, hc, h⟩ := Option.bind_eq_some_iff.mp h
      exact handoutInv_advance hi hc h
  | cancel i =>
      obtain ⟨c, hc, rfl⟩ := Option.map_eq_some_iff.mp h
      have hk : s.Keeps { s with calls := s.calls.set i ⟨c.id, .cancelled⟩ } :=
        .same hi.sessions rfl rfl
      exact ⟨inv_set hi hk hc rfl rfl trivial (fun hh => by cases hh), hk⟩

theorem handoutInv_reach (h : Reach step NewIds new s) : s.HandoutInv :=
  Reach.inv handoutInv_new (fun _ _ _ hi hC hs => (handoutInv_step hi hC hs).1) h

/-- Calls for `id` from the `n`-th on find nothing. -/
def Unserved (s : Downloads) (id : DownloadId) (n : Nat) : Prop :=
  ∀ (j : Nat) (c : DownloadCall), n ≤ j → s.calls[j]? = some c → c.id = id → c.unserved = true

theorem unserved_append {c : DownloadCall} {n : Nat} (h : s.Unserved id n)
    (hs : s'.calls = s.calls ++ [c]) (hc : c.unserved = true) : s'.Unserved id n := by
  intro j e hj he hid
  rw [hs, List.getElem?_append] at he
  split at he
  · exact h j e hj he hid
  · rw [List.mem_singleton.mp (List.mem_of_getElem? he)]
    exact hc

theorem unserved_set {c c' : DownloadCall} {i n : Nat} (h : s.Unserved id n)
    (hc : s.calls[i]? = some c) (hs : s'.calls = s.calls.set i c') (hid : c'.id = c.id)
    (hnew : c.id = id → c.unserved = true → c'.unserved = true) : s'.Unserved id n := by
  intro j e hj he heid
  rw [hs, List.getElem?_set] at he
  split at he
  · split at he
    · rename_i hij _
      subst hij
      cases he
      exact hnew (by rw [← hid, heid]) (h i c hj hc (by rw [← hid, heid]))
    · cases he
  · exact h j e hj he heid

/-- **Once a download is gone, a call that has found nothing finds nothing.** -/
theorem unserved_step {n : Nat} (hgone : s.Gone id) (h : s.Unserved id n)
    (hstep : s.step a = some s') : s'.Unserved id n := by
  cases a with
  | start id' target path fileSize => cases hstep; exact h
  | insert k =>
      obtain ⟨d, _, hstep⟩ := Option.bind_eq_some_iff.mp hstep
      unfold insert at hstep
      split at hstep
      · split at hstep
        · cases hstep; exact h
        · cases hstep
      · cases hstep
  | work k input =>
      obtain ⟨d, _, hstep⟩ := Option.bind_eq_some_iff.mp hstep
      obtain ⟨d', _, rfl⟩ := Option.map_eq_some_iff.mp hstep
      exact h
  | askProgress id' => cases hstep; exact unserved_append h rfl rfl
  | askData id' => cases hstep; exact unserved_append h rfl rfl
  | advance i =>
      obtain ⟨⟨id', phase⟩, hc, hstep⟩ := Option.bind_eq_some_iff.mp hstep
      rcases phase with phase | phase | _
      · obtain ⟨phase', hphase, rfl⟩ := Option.map_eq_some_iff.mp hstep
        refine unserved_set h hc rfl rfl fun hid hun => ?_
        dsimp only at hid
        subst hid
        cases phase with
        | asked =>
            simp only [getDownloadProgress, hgone.1, Option.some.injEq] at hphase
            subst hphase
            rfl
        | found k => cases hun
        | status k status => cases hun
        | returned result => cases hphase
      · obtain ⟨⟨phase', s1⟩, hphase, rfl⟩ := Option.map_eq_some_iff.mp hstep
        refine unserved_set h hc rfl rfl fun hid hun => ?_
        dsimp only at hid
        subst hid
        cases phase with
        | asked =>
            simp only [takeDownloadData, hgone.1, Option.some.injEq, Prod.mk.injEq] at hphase
            obtain ⟨rfl, _⟩ := hphase
            rfl
        | found k => cases hun
        | complete k => cases hun
        | taken filename data => cases hun
        | returned result => cases hphase
      · cases hstep
  | cancel i =>
      obtain ⟨c, hc, rfl⟩ := Option.map_eq_some_iff.mp hstep
      exact unserved_set h hc rfl rfl fun _ _ => rfl

theorem unserved_reach (hi : s.HandoutInv) (hgone : s.Gone id) (h : Reach step NewIds s s') :
    s'.Unserved id s.calls.length := by
  have hall : s'.HandoutInv ∧ s'.Gone id ∧ s'.Unserved id s.calls.length := by
    refine Reach.inv (I := fun s' => s'.HandoutInv ∧ s'.Gone id ∧ s'.Unserved id s.calls.length)
      ⟨hi, hgone, fun j c hj hc _ => ?_⟩ ?_ h
    · rw [List.getElem?_eq_none hj] at hc
      cases hc
    · intro s1 s2 a hinv hnew hstep
      obtain ⟨hinv', hkeeps⟩ := handoutInv_step hinv.1 hnew hstep
      exact ⟨hinv', hkeeps.gone id hinv.2.1, unserved_step hinv.2.1 hinv.2.2 hstep⟩
  exact hall.2.2

theorem CallOk.sawComplete {c : DownloadCall} (h : s.CallOk c) (hsaw : c.sawComplete = true) :
    ∃ data, s.Completed c.id data := by
  obtain ⟨id, phase⟩ := c
  rcases phase with phase | phase | _
  · rcases phase with _ | k | ⟨k, status⟩ | _ | p
    · cases hsaw
    · cases hsaw
    · exact h.2 (of_decide_eq_true hsaw)
    · cases hsaw
    · exact h (of_decide_eq_true hsaw)
  · rcases phase with _ | k | k | ⟨filename, data⟩ | _ | ⟨filename, data⟩
    · cases hsaw
    · cases hsaw
    · exact h.2
    · obtain ⟨k, d, hd, hid, ht, _⟩ := h
      exact ⟨data, k, d, hd, hid, ht⟩
    · cases hsaw
    · obtain ⟨k, d, hd, hid, ht, _⟩ := h.1
      exact ⟨data, k, d, hd, hid, ht⟩
  · cases hsaw

/-- **A completed download is handed out once.** Whatever the order of the lock sections: bytes in
    the hands of a call are those the task has read and stored; only one call ever has them;
    Complete is not seen before they are stored; and after a call has returned them the id is
    unknown. -/
theorem taken_once (h : Reach step NewIds new s) :
    (∀ (i : Nat) (c : DownloadCall) (data : List UInt8), s.calls[i]? = some c →
      c.handed = some data → ∃ d ∈ s.sessions, d.id = c.id ∧ d.task = .finished (.ok data) ∧
        ∃ w, (readFileWithProgress d.target d.path w).1 = .ok data) ∧
    (∀ (i j : Nat) (c e : DownloadCall), s.calls[i]? = some c → s.calls[j]? = some e →
      c.handed.isSome = true → e.handed.isSome = true → c.id = e.id → i = j) ∧
    (∀ (i : Nat) (c : DownloadCall), s.calls[i]? = some c → c.sawComplete = true →
      ∃ d ∈ s.sessions, d.id = c.id ∧ ∃ data, d.task = .finished (.ok data)) ∧
    (∀ (i : Nat) (c : DownloadCall) (result : List UInt8 × List UInt8), s.calls[i]? = some c →
      c.phase = .take (.returned (some result)) → ∀ s', Reach step NewIds s s' →
        ∀ (j : Nat) (e : DownloadCall), s.calls.length ≤ j → s'.calls[j]? = some e → e.id = c.id →
          e.gave = false) := by
  have hi := handoutInv_reach h
  refine ⟨fun i c data hc hh => ?_, hi.once, fun i c hc hsaw => ?_,
    fun i c result hc hphase s' hreach j e hj he hid => ?_⟩
  · obtain ⟨k, d, hd, hid, ht, _⟩ := (hi.calls i c hc).emptied hh
    exact ⟨d, List.mem_of_getElem? hd, hid, ht, hi.sessions.fromRead k d hd data (by rw [ht]; rfl)⟩
  · obtain ⟨data, k, d, hd, hid, ht⟩ := (hi.calls i c hc).sawComplete hsaw
    exact ⟨d, List.mem_of_getElem? hd, hid, data, ht⟩
  · have hok := hi.calls i c hc
    simp only [CallOk, hphase] at hok
    have hun := unserved_reach hi hok.2 hreach j e hj he hid
    obtain ⟨_, phase⟩ := e
    rcases phase with phase | phase | _
    · rcases phase with _ | k | ⟨k, status⟩ | _ | p
      all_goals first | rfl | cases hun
    · rcases phase with _ | k | k | ⟨filename, data⟩ | _ | ⟨filename, data⟩
      all_goals first | rfl | cases hun
    · rfl

section Runs

/-- The first call comes before the file is read, the second one after. -/
def handoutRun : List DownloadAction :=
  [.start [48] vehicle [97] 3, .insert 0, .askData [48], .advance 0, .advance 0,
    .work 0 (.read repairedRun), .work 0 .store, .work 0 .store, .askData [48], .advance 1,
    .advance 1, .advance 1, .advance 1]

theorem taken_once_repaired : ∃ s, Reach step NewIds new s ∧ ∃ c : DownloadCall,
    s.calls[1]? = some c ∧ c.handed = some [7, 8, 9] ∧
      ∃ d ∈ s.sessions, d.id = c.id ∧ d.task = .finished (.ok [7, 8, 9]) := by
  obtain ⟨s, hreach, hhanded⟩ : ∃ s, Reach step NewIds new s ∧
      (s.calls[1]?).bind DownloadCall.handed = some [7, 8, 9] :=
    exists_of_execC handoutRun (by decide +kernel)
  obtain ⟨c, hc, hh⟩ := Option.bind_eq_some_iff.mp hhanded
  obtain ⟨d, hd, hid, ht, _⟩ := (taken_once hreach).1 1 c [7, 8, 9] hc hh
  exact ⟨s, hreach, c, hc, hh, d, hd, hid, ht⟩

end Runs

end Downloads

end MavlinkServer.Ftp
