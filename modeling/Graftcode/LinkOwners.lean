import Graftcode.LinkClient
/-!
# LinkOwners — who holds a link, and who has a ticket

Two invariants of the clients that hold over every run.  `Owned`: a link's owners are the calls that hold it, and a
link whose destructor has begun is held by nobody and can be obtained by nobody.  `Ticketed`: the live cells of
`pending_` are the tickets of the calls past `Register`.
-/
namespace Graftcode
namespace LinkClient

open PendingReplies (WaitResult Cell cells)

def Linking.call : Linking → Option CallId
  | free => none
  | resetting c _ | constructing c _ | aborting c _ => some c

/-- The link it is about: nobody has it yet, or any more. -/
def Linking.link : Linking → Option LinkRef
  | free => none
  | resetting _ old => old
  | constructing _ l | aborting _ l => some l

attribute [grind =] Link.add Link.stop Link.disconnect Call.link Call.ticketed Linking.call
  Linking.link

structure Owned (s : State) : Prop where
  owner : ∀ c l, (s.calls c).link = some l ↔ c ∈ (s.links l).owners
  nodup : ∀ l, (s.links l).owners.Nodup
  stopped : ∀ l, (s.links l).stopping_ = true →
    (s.links l).owners = [] ∧ s.link_ ≠ some l ∧ ∀ c, s.linking ≠ .constructing c l
  fresh : ∀ l, s.made ≤ l → s.links l = {} ∧ s.link_ ≠ some l ∧ ∀ c, s.linking ≠ .constructing c l
  locked : s.linking ≠ .free → s.link_ = none
  inside : ∀ c, s.linking.call = some c → s.calls c = .idle
  unheld : ∀ l, s.linking.link = some l → (s.links l).owners = []

theorem owned_init : Owned State.init := by
  constructor <;> simp [State.init, Call.link, Linking.call, Linking.link]

theorem Owned.resetLink {s : State} (ho : Owned s) {c : CallId} {l : LinkRef} (hc : s.calls c = .idle)
    (hl : s.link_ = some l) : Owned (s.resetLink c l) := by
  obtain ⟨owner, nodup, stopped, fresh, locked, inside, unheld⟩ := ho
  unfold State.resetLink
  split
  · rename_i hemp
    rw [List.isEmpty_iff] at hemp
    constructor <;> grind
  · constructor <;> grind

theorem Owned.leave {s : State} (ho : Owned s) {c : CallId} {l : LinkRef} (hc : (s.calls c).link = some l)
    (call : Call) (link : Link) (hcall : call.link = none) (hlink : link.owners = (s.links l).owners.erase c)
    (hstop : link.stopping_ = true → link.owners = [] ∧ s.link_ ≠ some l) :
    Owned ((s.setLink l link).setCall c call) := by
  have hmem : c ∈ (s.links l).owners := (ho.owner c l).1 hc
  have hidle : s.calls c ≠ .idle := fun h => by rw [h] at hc; cases hc
  have hbuild : s.linking.link ≠ some l := fun h => by rw [ho.unheld l h] at hmem; cases hmem
  have hmade : ¬ s.made ≤ l := fun h => by rw [(ho.fresh l h).1] at hmem; cases hmem
  constructor
  case owner =>
    intro c' l'
    rw [setCall_calls, setCall_links, setLink_links, setLink_calls]
    by_cases h1 : c' = c
    · subst h1
      rw [if_pos rfl, hcall]
      by_cases h2 : l' = l
      · simp [h2, hlink, (ho.nodup l).mem_erase_iff]
      · simp only [if_neg h2, ← ho.owner, hc, Option.some.injEq, Ne.symm h2, reduceCtorEq]
    · rw [if_neg h1, ho.owner]
      by_cases h2 : l' = l
      · simp [h2, hlink, (ho.nodup l).mem_erase_iff, h1]
      · rw [if_neg h2]
  case nodup =>
    intro l'
    rw [setCall_links, setLink_links]
    split
    · rw [hlink]; exact (ho.nodup l).erase c
    · exact ho.nodup l'
  case stopped =>
    intro l' hs
    simp only [setCall_links, setLink_links, setCall_link, setLink_link, setCall_linking, setLink_linking] at hs ⊢
    split at hs
    · rename_i h
      subst h
      rw [if_pos rfl]
      exact ⟨(hstop hs).1, (hstop hs).2, fun c' h => hbuild (by rw [h]; rfl)⟩
    · rename_i h; rw [if_neg h]; exact ho.stopped l' hs
  case fresh =>
    intro l' hm
    have hne : l' ≠ l := fun h => hmade (h ▸ hm)
    simpa [hne] using ho.fresh l' hm
  case locked => exact ho.locked
  case inside =>
    intro c' hin
    have hne : c' ≠ c := fun h => hidle (h ▸ ho.inside c' hin)
    simpa [hne] using ho.inside c' hin
  case unheld =>
    intro l' hb
    have hne : l' ≠ l := fun h => hbuild (h ▸ hb)
    simpa [hne] using ho.unheld l' hb

theorem Owned.release {s : State} (ho : Owned s) {c : CallId} {l : LinkRef} (hc : s.calls c = .unwinding l) :
    Owned (s.release c l) := by
  have hlink : (s.calls c).link = some l := by rw [hc]; rfl
  simp only [State.release]
  split
  · rename_i h
    exact ho.leave hlink _ _ rfl rfl (fun _ => ⟨List.isEmpty_iff.1 h.1, h.2⟩)
  · refine ho.leave hlink _ _ rfl rfl (fun hs => ?_)
    have hmem := (ho.owner c l).1 hlink
    rw [(ho.stopped l hs).1] at hmem
    cases hmem

theorem Owned.recall {s : State} (ho : Owned s) {c : CallId} {l : LinkRef} (hc : (s.calls c).link = some l) (call : Call)
    (hcall : call.link = some l) : Owned (s.setCall c call) where
  owner c' l' := by
    rw [setCall_calls, setCall_links, ← ho.owner]
    by_cases h : c' = c
    · rw [if_pos h, hcall, h, hc]
    · rw [if_neg h]
  nodup := ho.nodup
  stopped := ho.stopped
  fresh := ho.fresh
  locked := ho.locked
  inside c' hin := by
    have hidle := ho.inside c' hin
    have hne : c' ≠ c := fun h => by rw [← h, hidle] at hc; cases hc
    simpa [hne] using hidle
  unheld := ho.unheld

theorem Owned.relink {s : State} (ho : Owned s) {l : LinkRef} (link : Link) (hown : link.owners = (s.links l).owners)
    (hstop : link.stopping_ = (s.links l).stopping_) (hmade : l < s.made) : Owned (s.setLink l link) := by
  obtain ⟨owner, nodup, stopped, fresh, locked, inside, unheld⟩ := ho
  constructor <;> grind

theorem Owned.repend {s : State} (ho : Owned s) (p : PendingReplies.State CallId) : Owned { s with pending_ := p } :=
  ⟨ho.owner, ho.nodup, ho.stopped, ho.fresh, ho.locked, ho.inside, ho.unheld⟩

theorem Owned.made_of_held {s : State} (ho : Owned s) {c : CallId} {l : LinkRef} (hc : (s.calls c).link = some l) :
    l < s.made := by
  by_contra hm
  have hmem := (ho.owner c l).1 hc
  rw [(ho.fresh l (Nat.le_of_not_lt hm)).1] at hmem
  cases hmem

theorem Owned.made_of_disconnecting {s : State} (ho : Owned s) {l : LinkRef} {error : Text} {inParse : Bool}
    (hd : (s.links l).dispatcher_ = .disconnecting error inParse) : l < s.made := by
  by_contra hm
  rw [(ho.fresh l (Nat.le_of_not_lt hm)).1] at hd
  cases hd

/-! The steps of `CurrentLink`, each under the lock. -/

theorem Owned.noLink {s : State} (ho : Owned s) {c : CallId} (hc : s.calls c = .idle) (hl : s.link_ = none) :
    Owned { s with linking := .resetting c none } := by
  obtain ⟨owner, nodup, stopped, fresh, locked, inside, unheld⟩ := ho
  constructor <;> grind

theorem Owned.sameLink {s : State} (ho : Owned s) {c : CallId} {l : LinkRef} (hc : s.calls c = .idle)
    (hf : s.linking = .free) (hl : s.link_ = some l) : Owned (s.obtain c l) := by
  obtain ⟨owner, nodup, stopped, fresh, locked, inside, unheld⟩ := ho
  constructor <;> grind

theorem Owned.constructing {s : State} (ho : Owned s) {c : CallId} {old : Option LinkRef}
    (hl : s.linking = .resetting c old) :
    Owned { s.setLink s.made {} with made := s.made + 1, linking := .constructing c s.made } := by
  obtain ⟨owner, nodup, stopped, fresh, locked, inside, unheld⟩ := ho
  constructor <;> grind

theorem Owned.ready {s : State} (ho : Owned s) {c : CallId} {l : LinkRef} (hl : s.linking = .constructing c l) :
    Owned { s.obtain c l with link_ := some l, linking := .free } := by
  obtain ⟨owner, nodup, stopped, fresh, locked, inside, unheld⟩ := ho
  constructor <;> grind

theorem Owned.notReady {s : State} (ho : Owned s) {c : CallId} {l : LinkRef} (hl : s.linking = .constructing c l) :
    Owned { s.setLink l (s.links l).stop with linking := .aborting c l } := by
  obtain ⟨owner, nodup, stopped, fresh, locked, inside, unheld⟩ := ho
  constructor <;> grind

theorem Owned.ended {s : State} (ho : Owned s) {c : CallId} (hc : (s.calls c).link = none)
    (hin : s.linking.call ≠ some c) : Owned (s.setCall c .ended) := by
  obtain ⟨owner, nodup, stopped, fresh, locked, inside, unheld⟩ := ho
  constructor <;> grind

theorem Owned.unlock {s : State} (ho : Owned s) : Owned { s with linking := .free } := by
  obtain ⟨owner, nodup, stopped, fresh, locked, inside, unheld⟩ := ho
  constructor <;> grind

theorem Owned.giveUp {s : State} (ho : Owned s) {c : CallId} (hc : s.linking.call = some c) :
    Owned { s.setCall c .ended with linking := .free } :=
  ho.unlock.ended (by
    change (s.calls c).link = none
    rw [ho.inside c hc]
    rfl) nofun

theorem owned_step {k : Plugin} {s s' : State} {e : Event} (ho : Owned s) (hm : Moved k s s' e) : Owned s' := by
  cases hm with
  | brokenLink c l hc hf hl hb => exact ho.resetLink hc hl
  | registered c l id slot p hc hp => exact (ho.recall (by rw [hc]; rfl) _ rfl).repend p
  | refused c l error hc => exact ho.recall (by rw [hc]; rfl) _ rfl
  | checked c l hc hb => exact ho.recall (by rw [hc]; rfl) _ rfl
  | transmitted c l hk hc => exact ho.recall (by rw [hc]; rfl) _ rfl
  | sent c l hk hc => exact ho.recall (by rw [hc]; rfl) _ rfl
  | publishFailed c l error hc => exact ho.recall (by rcases hc with hc | hc <;> rw [hc] <;> rfl) _ rfl
  | sendFailed c l error hk hc =>
    have hlink : (s.calls c).link = some l := by rw [hc]; rfl
    exact (ho.relink { s.links l with broken_ := true } rfl rfl (ho.made_of_held hlink)).recall hlink (.failed l) rfl
  | waited c l slot result p hc hp => exact (ho.recall (by rw [hc]; rfl) _ rfl).repend p
  | ticketDestroyed c l p e hc hp =>
    exact (ho.recall (by rcases hc with hc | hc <;> rw [hc] <;> rfl) _ rfl).repend p
  | released c l hc => exact ho.release hc
  | completed l id bytes p e hl hd hp => exact ho.repend p
  | disconnected l error inParse hl hd => exact ho.relink _ rfl rfl hl
  | failedAll l error inParse p e hd hp =>
    have hmade := ho.made_of_disconnecting hd
    exact (ho.relink { s.links l with dispatcher_ := if inParse then .running else .exited } rfl rfl hmade).repend p
  | exited l hl hx => exact ho.relink _ rfl rfl hl
  | noLink c hc hf hl => exact ho.noLink hc hl
  | sameLink c l hc hf hl hb => exact ho.sameLink hc hf hl
  | constructing c old hl ho' => exact ho.constructing hl
  | notConstructed c old hl ho' => exact ho.giveUp (by rw [hl]; rfl)
  | ready c l hl => exact ho.ready hl
  | notReady c l hl => exact ho.notReady hl
  | aborted c l hl hx => exact ho.giveUp (by rw [hl]; rfl)
  | joined c l hc hx =>
    exact ho.ended (by rw [hc]; rfl) fun hin => by
      have hidle := ho.inside c hin
      rw [hc] at hidle
      cases hidle

/-! ## Tickets -/

def State.outcome (s : State) (c : CallId) : Option WaitResult := (cells s.pending_ c).bind Cell.outcome

/-- The live cells are the tickets of the calls past `Register`. -/
structure Ticketed (s : State) : Prop where
  pending : PendingReplies.Inv s.pending_
  cell : ∀ c, (cells s.pending_ c).isSome = (s.calls c).ticketed

theorem ticketed_init : Ticketed State.init := ⟨PendingReplies.inv_init, fun _ => rfl⟩

section Cells

variable {p p' : PendingReplies.State CallId} {c : CallId} {e : PendingReplies.Event}

theorem cells_completed (hi : PendingReplies.Inv p) {id : Text} {bytes : Bytes}
    (hp : PendingReplies.step p (.complete id bytes) = some (p', e)) (c' : CallId) :
    ∃ found, cells p' c' = (cells p c').map (Cell.finish (.completed id bytes found)) := by
  have hcell := (PendingReplies.cells_finished hi hp rfl).2 c'
  cases hp
  exact ⟨_, hcell⟩

theorem cells_failedAll (hi : PendingReplies.Inv p) {error : Text}
    (hp : PendingReplies.step p (.failAll error) = some (p', e)) (c' : CallId) :
    cells p' c' = (cells p c').map (Cell.finish (.failedAll error)) := by
  have hcell := (PendingReplies.cells_finished hi hp rfl).2 c'
  cases hp
  exact hcell

end Cells

theorem Ticketed.recall {s : State} (ht : Ticketed s) {s' : State} (hp : s'.pending_ = s.pending_)
    (hc : ∀ c, (s'.calls c).ticketed = (s.calls c).ticketed) : Ticketed s' :=
  ⟨by rw [hp]; exact ht.pending, fun c => by rw [hp, ht.cell, hc]⟩

theorem release_pending (s : State) (c : CallId) (l : LinkRef) : (s.release c l).pending_ = s.pending_ := by
  simp only [State.release]
  split <;> rfl

theorem release_calls (s : State) (c c' : CallId) (l : LinkRef) :
    ((s.release c l).calls c').link = (if c' = c then none else (s.calls c').link) ∧
      ((s.release c l).calls c').ticketed = (if c' = c then false else (s.calls c').ticketed) := by
  simp only [State.release]
  split <;> by_cases h : c' = c <;> simp [h, Call.link, Call.ticketed]

theorem resetLink_pending (s : State) (c : CallId) (l : LinkRef) : (s.resetLink c l).pending_ = s.pending_ := by
  unfold State.resetLink
  split <;> rfl

theorem resetLink_calls (s : State) (c : CallId) (l : LinkRef) : (s.resetLink c l).calls = s.calls := by
  unfold State.resetLink
  split <;> rfl

theorem ticketed_step {k : Plugin} {s s' : State} {e : Event} (ho : Owned s) (ht : Ticketed s) (hm : Moved k s s' e) :
    Ticketed s' := by
  cases hm with
  | noLink c hc hf hl => exact ht.recall rfl fun _ => rfl
  | brokenLink c l hc hf hl hb =>
    exact ht.recall (resetLink_pending s c l) fun c' => by rw [resetLink_calls]
  | sameLink c l hc hf hl hb => exact ht.recall rfl fun c' => by grind
  | constructing c old hl hx => exact ht.recall rfl fun c' => rfl
  | notConstructed c old hl hx =>
    have hidle := ho.inside c (by rw [hl]; rfl)
    exact ht.recall rfl fun c' => by grind
  | ready c l hl =>
    have hidle := ho.inside c (by rw [hl]; rfl)
    exact ht.recall rfl fun c' => by grind
  | notReady c l hl => exact ht.recall rfl fun c' => rfl
  | aborted c l hl hx =>
    have hidle := ho.inside c (by rw [hl]; rfl)
    exact ht.recall rfl fun c' => by grind
  | registered c l id slot p hc hp =>
    refine ⟨PendingReplies.inv_step ht.pending hp, fun c' => ?_⟩
    have := ht.cell c'
    rw [PendingReplies.cells_registered ht.pending hp]
    grind
  | refused c l error hc => exact ht.recall rfl fun c' => by grind
  | checked c l hc hb => exact ht.recall rfl fun c' => by grind
  | transmitted c l hk hc => exact ht.recall rfl fun c' => by grind
  | sent c l hk hc => exact ht.recall rfl fun c' => by grind
  | publishFailed c l error hc => exact ht.recall rfl fun c' => by grind
  | sendFailed c l error hk hc => exact ht.recall rfl fun c' => by grind
  | waited c l slot result p hc hp =>
    refine ⟨PendingReplies.inv_step ht.pending hp, fun c' => ?_⟩
    have := ht.cell c'
    rw [PendingReplies.cells_waited ht.pending hp]
    grind
  | ticketDestroyed c l p e hc hp =>
    refine ⟨PendingReplies.inv_step ht.pending hp, fun c' => ?_⟩
    have := ht.cell c'
    rw [PendingReplies.cells_destroyed ht.pending hp]
    grind
  | released c l hc =>
    exact ht.recall (release_pending s c l) fun c' => by rw [(release_calls s c c' l).2]; grind
  | joined c l hc hx => exact ht.recall rfl fun c' => by grind
  | completed l id bytes p e hl hd hp =>
    refine ⟨PendingReplies.inv_step ht.pending hp, fun c' => ?_⟩
    obtain ⟨found, hcell⟩ := cells_completed ht.pending hp c'
    rw [hcell, Option.isSome_map, ht.cell]
  | disconnected l error inParse hl hd => exact ht.recall rfl fun c' => rfl
  | failedAll l error inParse p e hd hp =>
    refine ⟨PendingReplies.inv_step ht.pending hp, fun c' => ?_⟩
    rw [cells_failedAll ht.pending hp, Option.isSome_map, ht.cell]
    rfl
  | exited l hl hx => exact ht.recall rfl fun c' => rfl

/-! ## Outcomes -/

theorem outcome_of_not_ticketed {s : State} (ht : Ticketed s) {c : CallId} (hc : (s.calls c).ticketed = false) :
    s.outcome c = none := by
  have := ht.cell c
  rw [hc, Option.isSome_eq_false_iff, Option.isNone_iff_eq_none] at this
  rw [State.outcome, this]
  rfl

theorem outcome_swept {s : State} (ht : Ticketed s) {p : PendingReplies.State CallId} {e : PendingReplies.Event}
    {error : Text} (hp : PendingReplies.step s.pending_ (.failAll error) = some (p, e)) {c : CallId}
    (hc : (s.calls c).ticketed = true) :
    (cells p c).bind Cell.outcome = (s.outcome c).or (some (.threw error)) := by
  have := ht.cell c
  rw [hc, Option.isSome_iff_exists] at this
  obtain ⟨cell, hcell⟩ := this
  rw [cells_failedAll ht.pending hp, State.outcome, hcell]
  rfl

/-- How the outcome of a call's ticket can move in a step. -/
inductive Became (s : State) (c : CallId) (e : Event) (before : Option WaitResult) : Option WaitResult → Prop where
  | same : Became s c e before before
  | fresh (id : Text) : before = none → e = .registered c id → Became s c e before none
  | gone : e = .ticketDestroyed c → Became s c e before none
  | drained (r r₀ : WaitResult) : before = some r₀ → e = .waited c r → Became s c e before (some r₀.drain)
  | answered (l : LinkRef) (id : Text) (bytes : Bytes) : before = none → (s.calls c).ticketed = true →
      e = .completed l id bytes → Became s c e before (some (.returned bytes))
  | swept (l : LinkRef) (error : Text) : before = none → (s.calls c).ticketed = true → e = .failedAll l error →
      Became s c e before (some (.threw error))

theorem became_of_moved {k : Plugin} {s s' : State} {e : Event} (ht : Ticketed s) (hm : Moved k s s' e) (c : CallId) :
    Became s c e (s.outcome c) (s'.outcome c) := by
  have hsame : s'.pending_ = s.pending_ → Became s c e (s.outcome c) (s'.outcome c) := by
    intro h
    have : s'.outcome c = s.outcome c := by rw [State.outcome, h]; rfl
    rw [this]
    exact .same
  cases hm with
  | brokenLink c' l hc hf hl hb => exact hsame (resetLink_pending s c' l)
  | released c' l hc => exact hsame (release_pending s c' l)
  | registered c' l id slot p hc hp =>
    have hcell := PendingReplies.cells_registered ht.pending hp c
    simp only [State.outcome, hcell]
    split
    · rename_i h
      subst h
      have : s.outcome c = none := outcome_of_not_ticketed ht (by rw [hc]; rfl)
      exact .fresh id this rfl
    · exact .same
  | waited c' l slot result p hc hp =>
    have hcell := PendingReplies.cells_waited ht.pending hp c
    simp only [State.outcome, hcell]
    split
    · rename_i h
      subst h
      cases h : cells s.pending_ c with
      | none => exact .same
      | some cell =>
        simp only [Option.map_some, Option.bind_some, Cell.drain]
        cases cell.outcome with
        | none => exact .same
        | some r₀ => exact .drained result r₀ rfl rfl
    · exact .same
  | ticketDestroyed c' l p e hc hp =>
    have hcell := PendingReplies.cells_destroyed ht.pending hp c
    simp only [State.outcome, hcell]
    split
    · rename_i h
      subst h
      exact .gone rfl
    · exact .same
  | completed l id bytes p e hl hd hp =>
    obtain ⟨found, hcell⟩ := cells_completed ht.pending hp c
    have htick := ht.cell c
    simp only [State.outcome, hcell]
    cases h : cells s.pending_ c with
    | none => exact .same
    | some cell =>
      rw [h] at htick
      simp only [Option.map_some, Option.bind_some, Cell.finish, PendingReplies.finishFor]
      cases ho : cell.outcome with
      | some r => exact .same
      | none =>
        split
        · exact .answered l id bytes rfl htick.symm rfl
        · exact .same
  | failedAll l error inParse p e hd hp =>
    have hcell := cells_failedAll ht.pending hp c
    have htick := ht.cell c
    simp only [State.outcome, hcell]
    cases h : cells s.pending_ c with
    | none => exact .same
    | some cell =>
      rw [h] at htick
      simp only [Option.map_some, Option.bind_some, Cell.finish, PendingReplies.finishFor]
      cases ho : cell.outcome with
      | some r => exact .same
      | none => exact .swept l error rfl htick.symm rfl
  | _ => exact hsame rfl

theorem wait_outcome {s : State} {c : CallId} {p : PendingReplies.State CallId} {slot : PendingReplies.SlotRef}
    {r : WaitResult} (hp : PendingReplies.step s.pending_ (.wait c) = some (p, .waited slot r)) :
    r = (s.outcome c).getD .timedOut := by
  simp only [PendingReplies.step] at hp
  split at hp
  · rename_i id slot' ht
    simp only [Option.some.injEq, Prod.mk.injEq, PendingReplies.Event.waited.injEq] at hp
    obtain ⟨-, rfl, rfl⟩ := hp
    have hcell : cells s.pending_ c = some ⟨id, slot',
        (s.pending_.pending.heap[slot']?).bind PendingReplies.Slot.result⟩ := PendingReplies.cells_eq_some.2 ⟨ht, rfl⟩
    rw [State.outcome, hcell]
    exact PendingReplies.wait_result hcell
  · cases hp

/-- **A finished ticket stays finished** as long as its call has it. -/
theorem finished_step {k : Plugin} {s s' : State} {e : Event} (ht : Ticketed s) (hm : Moved k s s' e) {c : CallId}
    {r : WaitResult} (hr : s.outcome c = some r) (hd : e ≠ .ticketDestroyed c) : ∃ r', s'.outcome c = some r' := by
  have hb := became_of_moved ht hm c
  generalize s'.outcome c = after at hb
  rw [hr] at hb
  cases hb with
  | same => exact ⟨r, rfl⟩
  | fresh id h => cases h
  | gone h => exact absurd h hd
  | drained r' r₀ h => exact ⟨_, rfl⟩
  | answered l id bytes h => cases h
  | swept l error h => cases h

end LinkClient
end Graftcode
