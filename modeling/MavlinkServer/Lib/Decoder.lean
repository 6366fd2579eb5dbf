/-
  File:      MavlinkServer/Lib/Decoder.lean
  Subject:   A DECODER OVER A BUFFER, AND A STREAM OF WHAT IT DECODES.

  A decoder looks at the bytes that have arrived so far: it takes an item off
  their front, or it wants more. The bytes come in pieces, and a stream adapter
  polls for them when the decoder wants more.

  * `Decoder`, `Drains` -- one attempt, and attempts until more bytes are wanted;
  * `Incremental` -- what was decoded before more bytes came is what would have
    been decoded of all of them; `Incremental.of_stable` -- a way to see it;
  * `Buffered.pollNext` -- the adapter, with the buffer put back after every
    attempt; `Awaits` -- what it takes in before the attempt it returns with;
  * `Cut` -- bytes in pieces; `Polled` -- polling until the adapter waits for
    what has not come;
  * **`Incremental.cutFree`** -- what is polled is what the decoder makes of all
    the bytes at once; `keepsBuffer_pollNext` -- an error loses none of them.
-/
import Mathlib.Data.List.Basic

namespace Lib

/-! ## 1. Decoders -/

/-- A decoder with a state of its own: an attempt leaves the rest of the buffer. -/
structure Decoder (σ α ι ε : Type) where
  decode : σ → List α → Except ε (Option ι) × σ × List α

variable {σ α ι ε φ : Type}

/-- **Drains**: attempt after attempt, until more is wanted. An error is an item like any other. -/
inductive Drains (c : Decoder σ α ι ε) : σ → List α → List (Except ε ι) → σ → List α → Prop where
  | dry {s b s' b'} (h : c.decode s b = (.ok none, s', b')) : Drains c s b [] s' b'
  | item {s b s' b' i items t u} (h : c.decode s b = (.ok (some i), s', b'))
      (rest : Drains c s' b' items t u) : Drains c s b (.ok i :: items) t u
  | error {s b s' b' e items t u} (h : c.decode s b = (.error e, s', b'))
      (rest : Drains c s' b' items t u) : Drains c s b (.error e :: items) t u

/-- **Incremental**: every buffer can be decoded to exhaustion, and going on with more bytes behind
    what is left gives the items of all the bytes at once. -/
structure Incremental (c : Decoder σ α ι ε) : Prop where
  drains : ∀ s b, ∃ items t u, Drains c s b items t u
  append : ∀ {s xs items s' rest ys items' s'' rest'},
    Drains c s xs items s' rest → Drains c s' (rest ++ ys) items' s'' rest' →
    ∃ t u, Drains c s (xs ++ ys) (items ++ items') t u

/-! ## 2. Draining -/

section Draining

variable {c : Decoder σ α ι ε} {s s' t t' : σ} {b b' u u' : List α}
  {items items' : List (Except ε ι)}

/-- There is one way to drain a buffer. -/
theorem Drains.unique (h : Drains c s b items t u) (h' : Drains c s b items' t' u') :
    items = items' ∧ t = t' ∧ u = u' := by
  induction h generalizing items' with
  | dry h =>
    cases h' with
    | dry h' =>
      rw [h] at h'
      cases h'
      exact ⟨rfl, rfl, rfl⟩
    | item h' _ =>
      rw [h] at h'
      cases h'
    | error h' _ =>
      rw [h] at h'
      cases h'
  | item h _ ih =>
    cases h' with
    | item h' rest =>
      rw [h] at h'
      cases h'
      rcases ih rest with ⟨rfl, ht, hu⟩
      exact ⟨rfl, ht, hu⟩
    | dry h' =>
      rw [h] at h'
      cases h'
    | error h' _ =>
      rw [h] at h'
      cases h'
  | error h _ ih =>
    cases h' with
    | error h' rest =>
      rw [h] at h'
      cases h'
      rcases ih rest with ⟨rfl, ht, hu⟩
      exact ⟨rfl, ht, hu⟩
    | dry h' =>
      rw [h] at h'
      cases h'
    | item h' _ =>
      rw [h] at h'
      cases h'

/-- An item that comes first comes first with more behind, too: what follows it drains alone and
    with the more behind, and by `Drains.unique` it is the same. -/
theorem Incremental.append_item (hc : Incremental c) {i : Except ε ι} {more : List α}
    (hfirst : ∀ {items t u}, Drains c s' b' items t u → Drains c s b (i :: items) t u)
    (hrest : Drains c s' (b' ++ more) items t u) :
    ∃ t u, Drains c s (b ++ more) (i :: items) t u := by
  obtain ⟨items₁, s₁, b₁, hold⟩ := hc.drains s' b'
  obtain ⟨items₂, s₂, b₂, hnew⟩ := hc.drains s₁ (b₁ ++ more)
  obtain ⟨t', u', hwhole⟩ := hc.append hold hnew
  rcases hrest.unique hwhole with ⟨rfl, _, _⟩
  exact hc.append (hfirst hold) hnew

/-- More bytes do not change an attempt that gave an item, an attempt that gave none can be made
    before or after they come, and items use up the buffer. -/
theorem Incremental.of_stable
    (hitem : ∀ {s b i s' b'}, c.decode s b = (.ok (some i), s', b') →
      b'.length < b.length ∧ ∀ ys, c.decode s (b ++ ys) = (.ok (some i), s', b' ++ ys))
    (herror : ∀ {s b e s' b'}, c.decode s b = (.error e, s', b') →
      b'.length < b.length ∧ ∀ ys, c.decode s (b ++ ys) = (.error e, s', b' ++ ys))
    (hnone : ∀ {s b s' b'}, c.decode s b = (.ok none, s', b') →
      ∀ ys, c.decode s (b ++ ys) = c.decode s' (b' ++ ys)) : Incremental c where
  drains := by
    intro s b
    induction hn : b.length using Nat.strongRecOn generalizing s b with
    | ind n ih =>
      subst hn
      rcases hd : c.decode s b with ⟨result, s', b'⟩
      rcases result with e | _ | i
      · obtain ⟨items, t, u, hrest⟩ := ih _ (herror hd).1 s' b' rfl
        exact ⟨_, t, u, .error hd hrest⟩
      · exact ⟨_, _, _, .dry hd⟩
      · obtain ⟨items, t, u, hrest⟩ := ih _ (hitem hd).1 s' b' rfl
        exact ⟨_, t, u, .item hd hrest⟩
  append := by
    intro s xs items s' rest ys items' s'' rest' h h'
    induction h with
    | dry h =>
      have hsame := hnone h ys
      refine ⟨s'', rest', ?_⟩
      cases h' with
      | dry h' => exact .dry (hsame.trans h')
      | item h' hrest => exact .item (hsame.trans h') hrest
      | error h' hrest => exact .error (hsame.trans h') hrest
    | item h _ ih =>
      obtain ⟨t, u, hrest⟩ := ih h'
      exact ⟨t, u, .item ((hitem h).2 ys) hrest⟩
    | error h _ ih =>
      obtain ⟨t, u, hrest⟩ := ih h'
      exact ⟨t, u, .error ((herror h).2 ys) hrest⟩

end Draining

/-! ## 3. Polling -/

inductive Poll (β : Type) where
  | pending
  | ready (value : β)
  deriving DecidableEq, Repr

/-- What an adapter makes of what it took in: bytes for the buffer, nothing, an error to return, or
    the end. -/
inductive Feed (α ε : Type) where
  | data (bytes : List α)
  | skip
  | fail (e : ε)
  | ended
  deriving DecidableEq, Repr

/-- A decoder's state with the bytes that have arrived and were not decoded. -/
structure Buffered (σ α : Type) where
  codec : σ
  buffer : List α
  deriving DecidableEq, Repr

/-- **An attempt, and more bytes when it wants them**, until there is something to return. The list
    is what the inner stream answers, one poll after the other; behind its end it is pending. -/
def Buffered.pollNext (c : Decoder σ α ι ε) (feed : φ → Feed α ε) (inputs : List (Poll φ))
    (r : Buffered σ α) : Poll (Option (Except ε ι)) × Buffered σ α × List (Poll φ) :=
  match c.decode r.codec r.buffer with
  | (.ok (some i), s, b) => (.ready (some (.ok i)), ⟨s, b⟩, inputs)
  | (.error e, s, b) => (.ready (some (.error e)), ⟨s, b⟩, inputs)
  | (.ok none, s, b) =>
      match inputs with
      | [] => (.pending, ⟨s, b⟩, [])
      | .pending :: inputs => (.pending, ⟨s, b⟩, inputs)
      | .ready f :: inputs =>
          match feed f with
          | .data bytes => pollNext c feed inputs ⟨s, b ++ bytes⟩
          | .skip => pollNext c feed inputs ⟨s, b⟩
          | .fail e => (.ready (some (.error e)), ⟨s, b⟩, inputs)
          | .ended => (.ready none, ⟨s, b⟩, inputs)

/-- **Polled**: poll after poll, until the adapter waits for what has not come. -/
inductive Polled {ρ χ ξ : Type} (poll : List (Poll χ) → ρ → Poll (Option ξ) × ρ × List (Poll χ)) :
    List (Poll χ) → ρ → List ξ → Prop where
  | stop {inputs r r'} (h : poll inputs r = (.pending, r', [])) : Polled poll inputs r []
  | wait {inputs r r' rest items} (h : poll inputs r = (.pending, r', rest)) (hmore : rest ≠ [])
      (later : Polled poll rest r' items) : Polled poll inputs r items
  | item {inputs r i r' rest items} (h : poll inputs r = (.ready (some i), r', rest))
      (later : Polled poll rest r' items) : Polled poll inputs r (i :: items)

/-- The bytes for the buffer; `none` when the adapter returns instead. -/
def Feed.bytes? : Feed α ε → Option (List α)
  | .data bytes => some bytes
  | .skip => some []
  | .fail _ => none
  | .ended => none

/-- **A way of cutting bytes**: the pieces in their order, with waiting in between. -/
inductive Cut (pieces : φ → Option (List α)) : List (Poll φ) → List α → Prop where
  | nil : Cut pieces [] []
  | pending {inputs bytes} (later : Cut pieces inputs bytes) : Cut pieces (.pending :: inputs) bytes
  | piece {f bytes inputs more} (h : pieces f = some bytes) (later : Cut pieces inputs more) :
      Cut pieces (.ready f :: inputs) (bytes ++ more)

/-- **Awaits**: the attempts of one poll that gave nothing, with every byte that was left put back
    and every byte that was taken in behind it. -/
inductive Awaits (c : Decoder σ α ι ε) (pieces : φ → Option (List α)) :
    List (Poll φ) → Buffered σ α → List (Poll φ) → Buffered σ α → Prop where
  | here {inputs r} : Awaits c pieces inputs r inputs r
  | more {f bytes inputs r s b last r'} (h : c.decode r.codec r.buffer = (.ok none, s, b))
      (hpiece : pieces f = some bytes) (later : Awaits c pieces inputs ⟨s, b ++ bytes⟩ last r') :
      Awaits c pieces (.ready f :: inputs) r last r'

/-- What a poll returns, by its last attempt: an item, or nothing because no more bytes are there. -/
inductive Concludes (c : Decoder σ α ι ε) (last : List (Poll φ)) (r : Buffered σ α) :
    Poll (Option (Except ε ι)) × Buffered σ α × List (Poll φ) → Prop where
  | item {i s b} (h : c.decode r.codec r.buffer = (.ok (some i), s, b)) :
      Concludes c last r (.ready (some (.ok i)), ⟨s, b⟩, last)
  | error {e s b} (h : c.decode r.codec r.buffer = (.error e, s, b)) :
      Concludes c last r (.ready (some (.error e)), ⟨s, b⟩, last)
  | wait {s b rest} (h : c.decode r.codec r.buffer = (.ok none, s, b))
      (hrest : last = [] ∧ rest = [] ∨ last = .pending :: rest) :
      Concludes c last r (.pending, ⟨s, b⟩, rest)

/-- **Cut-free**: whichever way bytes come, what is polled until the adapter waits for more is what the
    decoder makes of them at once, behind what was buffered already. -/
def CutFree {ρ : Type} (c : Decoder σ α ι ε)
    (poll : List (Poll φ) → ρ → Poll (Option (Except ε ι)) × ρ × List (Poll φ))
    (start : Buffered σ α → ρ) (pieces : φ → Option (List α)) : Prop :=
  ∀ r bytes, ∃ items t u, Drains c r.codec (r.buffer ++ bytes) items t u ∧
    ∀ inputs, Cut pieces inputs bytes → ∀ polled, Polled poll inputs (start r) polled ↔ polled = items

/-- **An error loses nothing**: all that was buffered and all that was taken in was before the
    attempt that failed, and what it left is in the buffer. -/
def KeepsBuffer {ρ : Type} (c : Decoder σ α ι ε)
    (poll : List (Poll φ) → ρ → Poll (Option (Except ε ι)) × ρ × List (Poll φ))
    (start : Buffered σ α → ρ) (pieces : φ → Option (List α)) : Prop :=
  ∀ r inputs bytes, Cut pieces inputs bytes → ∀ e r' rest,
    poll inputs (start r) = (.ready (some (.error e)), r', rest) →
    ∃ last s b, Awaits c pieces inputs r rest last ∧
      c.decode last.codec last.buffer = (.error e, s, b) ∧ r' = start ⟨s, b⟩

/-! ## 4. One poll -/

section Polling

variable {c : Decoder σ α ι ε} {s : σ} {b bytes : List α} {items : List (Except ε ι)}
  {feed : φ → Feed α ε} {pieces : φ → Option (List α)} {inputs last rest : List (Poll φ)}
  {r r' : Buffered σ α}

theorem pollNext_item {i : ι} (h : c.decode r.codec r.buffer = (.ok (some i), s, b)) :
    Buffered.pollNext c feed inputs r = (.ready (some (.ok i)), ⟨s, b⟩, inputs) := by
  rw [Buffered.pollNext, h]

theorem pollNext_error {e : ε} (h : c.decode r.codec r.buffer = (.error e, s, b)) :
    Buffered.pollNext c feed inputs r = (.ready (some (.error e)), ⟨s, b⟩, inputs) := by
  rw [Buffered.pollNext, h]

theorem pollNext_wait (h : c.decode r.codec r.buffer = (.ok none, s, b))
    (hrest : inputs = [] ∧ rest = [] ∨ inputs = .pending :: rest) :
    Buffered.pollNext c feed inputs r = (.pending, ⟨s, b⟩, rest) := by
  rcases hrest with ⟨rfl, rfl⟩ | rfl
  · rw [Buffered.pollNext, h]
  · rw [Buffered.pollNext, h]

/-- Wanting more, the adapter takes bytes in and tries again. -/
theorem pollNext_feed {f : φ} (h : c.decode r.codec r.buffer = (.ok none, s, b))
    (hbytes : (feed f).bytes? = some bytes) :
    Buffered.pollNext c feed (.ready f :: inputs) r =
      Buffered.pollNext c feed inputs ⟨s, b ++ bytes⟩ := by
  rw [Buffered.pollNext, h]
  rcases hf : feed f with data | _ | e | _ <;> rw [hf] at hbytes <;> cases hbytes
  · simp only [hf]
  · simp only [hf, List.append_nil]

/-- **What one poll does**: it awaits, and returns with the attempt after that. -/
theorem pollNext_concludes (c : Decoder σ α ι ε)
    (hfeed : ∀ f bytes, pieces f = some bytes → (feed f).bytes? = some bytes)
    (hcut : Cut pieces inputs bytes) (r : Buffered σ α) :
    ∃ last r', Awaits c pieces inputs r last r' ∧
      Concludes c last r' (Buffered.pollNext c feed inputs r) := by
  induction hcut generalizing r with
  | nil =>
    refine ⟨[], r, .here, ?_⟩
    rcases hd : c.decode r.codec r.buffer with ⟨e | _ | i, s, b⟩
    · exact pollNext_error hd ▸ .error hd
    · exact pollNext_wait hd (.inl ⟨rfl, rfl⟩) ▸ .wait hd (.inl ⟨rfl, rfl⟩)
    · exact pollNext_item hd ▸ .item hd
  | pending =>
    refine ⟨_, r, .here, ?_⟩
    rcases hd : c.decode r.codec r.buffer with ⟨e | _ | i, s, b⟩
    · exact pollNext_error hd ▸ .error hd
    · exact pollNext_wait hd (.inr rfl) ▸ .wait hd (.inr rfl)
    · exact pollNext_item hd ▸ .item hd
  | piece h _ ih =>
    rcases hd : c.decode r.codec r.buffer with ⟨e | _ | i, s, b⟩
    · exact ⟨_, r, .here, pollNext_error hd ▸ .error hd⟩
    · obtain ⟨last, r', hawaits, hconcludes⟩ := ih ⟨s, b ++ _⟩
      exact ⟨last, r', .more hd h hawaits, pollNext_feed hd (hfeed _ _ h) ▸ hconcludes⟩
    · exact ⟨_, r, .here, pollNext_item hd ▸ .item hd⟩

/-- What is not taken in yet is cut, too, and what drains behind the last attempt of a poll drains
    behind the first. -/
theorem Awaits.drains (hc : Incremental c) (h : Awaits c pieces inputs r last r')
    (hcut : Cut pieces inputs bytes) : ∃ more, Cut pieces last more ∧ ∀ {items t u},
      Drains c r'.codec (r'.buffer ++ more) items t u →
      ∃ t u, Drains c r.codec (r.buffer ++ bytes) items t u := by
  induction h generalizing bytes with
  | here => exact ⟨bytes, hcut, fun h => ⟨_, _, h⟩⟩
  | more h hpiece _ ih =>
    rcases hcut with _ | _ | ⟨hpiece', hlater⟩
    rw [hpiece] at hpiece'
    cases hpiece'
    obtain ⟨more, hmore, hlast⟩ := ih hlater
    refine ⟨more, hmore, fun hdrains => ?_⟩
    obtain ⟨t, u, hrest⟩ := hlast hdrains
    rw [List.append_assoc] at hrest
    exact hc.append (.dry h) hrest

theorem Cut.left (hcut : Cut pieces last bytes)
    (hrest : last = [] ∧ rest = [] ∨ last = .pending :: rest) : Cut pieces rest bytes := by
  rcases hrest with ⟨rfl, rfl⟩ | rfl
  · exact hcut
  · rcases hcut with _ | hlater
    exact hlater

/-! ## 5. Polling on -/

/-- What is polled is what the decoder makes of all the bytes at once. -/
theorem Polled.drains (hc : Incremental c)
    (hfeed : ∀ f bytes, pieces f = some bytes → (feed f).bytes? = some bytes)
    {polled : List (Except ε ι)} (h : Polled (Buffered.pollNext c feed) inputs r polled)
    (hcut : Cut pieces inputs bytes) :
    ∃ t u, Drains c r.codec (r.buffer ++ bytes) polled t u := by
  induction h generalizing bytes with
  | stop h =>
    obtain ⟨last, r', hawaits, hconcludes⟩ := pollNext_concludes c hfeed hcut _
    obtain ⟨more, hmore, hlast⟩ := hawaits.drains hc hcut
    rw [h] at hconcludes
    rcases hconcludes with _ | _ | ⟨hd, hrest⟩
    rcases hmore.left hrest
    rw [List.append_nil] at hlast
    exact hlast (.dry hd)
  | wait h _ _ ih =>
    obtain ⟨last, r', hawaits, hconcludes⟩ := pollNext_concludes c hfeed hcut _
    obtain ⟨more, hmore, hlast⟩ := hawaits.drains hc hcut
    rw [h] at hconcludes
    rcases hconcludes with _ | _ | ⟨hd, hrest⟩
    obtain ⟨t, u, hlater⟩ := ih (hmore.left hrest)
    obtain ⟨t, u, hall⟩ := hc.append (.dry hd) hlater
    exact hlast hall
  | item h _ ih =>
    obtain ⟨last, r', hawaits, hconcludes⟩ := pollNext_concludes c hfeed hcut _
    obtain ⟨more, hmore, hlast⟩ := hawaits.drains hc hcut
    rw [h] at hconcludes
    rcases hconcludes with hd | hd | _
    · obtain ⟨t, u, hlater⟩ := ih hmore
      obtain ⟨t, u, hall⟩ := hc.append_item (.item hd) hlater
      exact hlast hall
    · obtain ⟨t, u, hlater⟩ := ih hmore
      obtain ⟨t, u, hall⟩ := hc.append_item (.error hd) hlater
      exact hlast hall

section Readers

variable {ρ ρ' χ ξ : Type} {poll : List (Poll χ) → ρ → Poll (Option ξ) × ρ × List (Poll χ)}
  {poll' : List (Poll χ) → ρ' → Poll (Option ξ) × ρ' × List (Poll χ)}
  {inputs inputs' : List (Poll χ)} {reader reader' : ρ} {polled polled' : List ξ}

/-- A poll that does the same leaves the same to be polled. -/
theorem Polled.congr (hpoll : poll inputs reader = poll inputs' reader')
    (h : Polled poll inputs' reader' polled) : Polled poll inputs reader polled := by
  cases h with
  | stop h => exact .stop (hpoll.trans h)
  | wait h hmore later => exact .wait (hpoll.trans h) hmore later
  | item h later => exact .item (hpoll.trans h) later

theorem Polled.unique (h : Polled poll inputs reader polled)
    (h' : Polled poll inputs reader polled') : polled = polled' := by
  induction h generalizing polled' with
  | stop h =>
    cases h' with
    | stop => rfl
    | wait h' hmore _ =>
      rw [h] at h'
      cases h'
      exact absurd rfl hmore
    | item h' _ =>
      rw [h] at h'
      cases h'
  | wait h hmore _ ih =>
    cases h' with
    | stop h' =>
      rw [h] at h'
      cases h'
      exact absurd rfl hmore
    | wait h' _ later =>
      rw [h] at h'
      cases h'
      exact ih later
    | item h' _ =>
      rw [h] at h'
      cases h'
  | item h _ ih =>
    cases h' with
    | item h' later =>
      rw [h] at h'
      cases h'
      rw [ih later]
    | stop h' =>
      rw [h] at h'
      cases h'
    | wait h' _ _ =>
      rw [h] at h'
      cases h'

/-- A reader that polls as another one does, on inputs of a kind, is polled for the same. -/
theorem Polled.map {Kind : List (Poll χ) → Prop} {image : ρ → ρ'}
    (hpoll : ∀ {inputs reader answer reader' rest}, Kind inputs →
      poll inputs reader = (answer, reader', rest) →
      poll' inputs (image reader) = (answer, image reader', rest) ∧ Kind rest)
    (hkind : Kind inputs) (h : Polled poll inputs reader polled) :
    Polled poll' inputs (image reader) polled := by
  induction h with
  | stop h => exact .stop (hpoll hkind h).1
  | wait h hmore _ ih => exact .wait (hpoll hkind h).1 hmore (ih (hpoll hkind h).2)
  | item h _ ih => exact .item (hpoll hkind h).1 (ih (hpoll hkind h).2)

/-- Reading another way, a reader is cut-free when the first one is. -/
theorem CutFree.map {ρ : Type}
    {poll : List (Poll φ) → ρ → Poll (Option (Except ε ι)) × ρ × List (Poll φ)}
    {ρ' : Type} {poll' : List (Poll φ) → ρ' → Poll (Option (Except ε ι)) × ρ' × List (Poll φ)}
    {start : Buffered σ α → ρ} {image : ρ → ρ'} (h : CutFree c poll start pieces)
    (hpoll : ∀ {inputs reader answer reader' rest}, (∃ bytes, Cut pieces inputs bytes) →
      poll inputs reader = (answer, reader', rest) →
      poll' inputs (image reader) = (answer, image reader', rest) ∧ ∃ bytes, Cut pieces rest bytes) :
    CutFree c poll' (image ∘ start) pieces := by
  intro r bytes
  obtain ⟨items, t, u, hwhole, hpolled⟩ := h r bytes
  refine ⟨items, t, u, hwhole, fun inputs hcut polled => ?_⟩
  have hitems : Polled poll' inputs (image (start r)) items :=
    ((hpolled inputs hcut items).mpr rfl).map hpoll ⟨bytes, hcut⟩
  constructor
  · exact fun hother => hother.unique hitems
  · rintro rfl
    exact hitems

end Readers

/-- From every buffer polling goes on when it does from those that want more. -/
theorem Incremental.polled_of_dry (hc : Incremental c)
    (hdry : ∀ {s b s' b'}, c.decode s b = (.ok none, s', b') →
      ∃ polled, Polled (Buffered.pollNext c feed) inputs ⟨s, b⟩ polled) (r : Buffered σ α) :
    ∃ polled, Polled (Buffered.pollNext c feed) inputs r polled := by
  obtain ⟨s, b⟩ := r
  obtain ⟨items, t, u, h⟩ := hc.drains s b
  clear hc
  induction h with
  | dry h => exact hdry h
  | item h _ ih =>
    obtain ⟨polled, hlater⟩ := ih
    exact ⟨_, .item (pollNext_item h) hlater⟩
  | error h _ ih =>
    obtain ⟨polled, hlater⟩ := ih
    exact ⟨_, .item (pollNext_error h) hlater⟩

/-- Polling comes to wait for more. -/
theorem Incremental.exists_polled (hc : Incremental c)
    (hfeed : ∀ f bytes, pieces f = some bytes → (feed f).bytes? = some bytes)
    (hcut : Cut pieces inputs bytes) (r : Buffered σ α) :
    ∃ polled, Polled (Buffered.pollNext c feed) inputs r polled := by
  induction hcut generalizing r with
  | nil => exact hc.polled_of_dry (fun h => ⟨[], .stop (pollNext_wait h (.inl ⟨rfl, rfl⟩))⟩) r
  | @pending inputs _ _ ih =>
    refine hc.polled_of_dry (fun {s b s' b'} h => ?_) r
    obtain ⟨polled, hlater⟩ := ih ⟨s', b'⟩
    by_cases hmore : inputs = []
    · subst hmore
      exact ⟨[], .stop (pollNext_wait h (.inr rfl))⟩
    · exact ⟨polled, .wait (pollNext_wait h (.inr rfl)) hmore hlater⟩
  | @piece f bytes _ _ hpiece _ ih =>
    refine hc.polled_of_dry (fun {s b s' b'} h => ?_) r
    obtain ⟨polled, hlater⟩ := ih ⟨s', b' ++ bytes⟩
    exact ⟨polled, hlater.congr (pollNext_feed h (hfeed _ _ hpiece))⟩

/-- **The pieces do not matter.** -/
theorem Incremental.cutFree (hc : Incremental c)
    (hfeed : ∀ f bytes, pieces f = some bytes → (feed f).bytes? = some bytes) :
    CutFree c (Buffered.pollNext c feed) id pieces := by
  intro r bytes
  obtain ⟨items, t, u, hwhole⟩ := hc.drains r.codec (r.buffer ++ bytes)
  refine ⟨items, t, u, hwhole, fun inputs hcut polled => ⟨fun h => ?_, ?_⟩⟩
  · obtain ⟨t', u', hpolled⟩ := h.drains hc hfeed hcut
    exact (hpolled.unique hwhole).1
  · rintro rfl
    obtain ⟨polled', h⟩ := hc.exists_polled hfeed hcut r
    obtain ⟨t', u', hpolled⟩ := h.drains hc hfeed hcut
    rw [← (hpolled.unique hwhole).1]
    exact h

/-- **An error loses nothing**, of any decoder. -/
theorem keepsBuffer_pollNext (c : Decoder σ α ι ε)
    (hfeed : ∀ f bytes, pieces f = some bytes → (feed f).bytes? = some bytes) :
    KeepsBuffer c (Buffered.pollNext c feed) id pieces := by
  intro r inputs bytes hcut e r' rest h
  obtain ⟨last, r₁, hawaits, hconcludes⟩ := pollNext_concludes c hfeed hcut r
  replace h : Buffered.pollNext c feed inputs r = (.ready (some (.error e)), r', rest) := h
  rw [h] at hconcludes
  cases hconcludes with
  | error hd => exact ⟨r₁, _, _, hawaits, hd, rfl⟩

end Polling

end Lib
