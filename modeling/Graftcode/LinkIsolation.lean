import Graftcode.LinkStranded
/-!
# LinkIsolation — whose tickets a dying link fails

All links of a client share one `PendingReplies`, and `FailAll` takes every ticket in it.  `CurrentLink` resets a broken
link before it makes the next one, which joins the old dispatcher, but only if no other call still holds the old link.
If one does, the old link's sweep can fail the new link's calls.

`Sole` is what holds as long as this never happens: every link but the current one is retired.
-/
namespace Graftcode
namespace LinkClient

open PendingReplies (WaitResult Cell cells)

/-! ## The two halves of isolation -/

/-- A sweep that may come next finishes only tickets of calls that obtained its link. -/
def SweepsOwn (k : Plugin) (s : State) : Prop :=
  ∀ a s' l error, step k s a = some (s', .failedAll l error) →
    ∀ c, s.outcome c = none → s'.outcome c ≠ none → (s.calls c).link = some l

/-- A call whose `Wait` throws does so with the error of a link it had obtained. -/
def FailsOwn (t : List Event) : Prop :=
  ∀ pre c error post, t = pre ++ .waited c (.threw error) :: post →
    ∃ l, .obtained c l ∈ pre ∧ .failedAll l error ∈ pre

/-! ## Retired links -/

/-- The call will register no ticket any more, and the one it may have is finished. -/
def Spent (s : State) (c : CallId) : Prop :=
  (∀ l, s.calls c ≠ .obtained l) ∧ ((s.calls c).ticketed = true → ∃ r, s.outcome c = some r)

/-- The dispatcher is gone and every call that still holds the link is spent. -/
def Retired (s : State) (l : LinkRef) : Prop :=
  (s.links l).dispatcher_ = .exited ∧ ∀ c, (s.calls c).link = some l → Spent s c

/-- When `CurrentLink` replaces a broken link, no call still holds that link, or it is retired. -/
def QuietReplacement (k : Plugin) (s : State) (a : Action) : Prop :=
  ∀ s' c l, step k s a = some (s', .replacing c (some l)) → (s.links l).owners = [] ∨ Retired s l

/-- The client's own link, or the one `CurrentLink` is about. -/
def Current (s : State) (l : LinkRef) : Prop := s.link_ = some l ∨ s.linking.link = some l

def Sole (s : State) : Prop := ∀ l, l < s.made → Current s l ∨ Retired s l

theorem sole_init : Sole State.init := fun l h => absurd h (Nat.not_lt_zero l)

theorem Current.eq {s : State} (ho : Owned s) {l l' : LinkRef} (h : Current s l) (h' : Current s l') : l = l' := by
  have hlink : s.link_ ≠ none → s.linking.link = none := fun h => by
    by_cases hf : s.linking = .free
    · rw [hf]; rfl
    · exact absurd (ho.locked hf) h
  unfold Current at h h'
  grind

theorem held_of_moved {k : Plugin} {s s' : State} {e : Event} (hm : Moved k s s' e) {c : CallId} {l : LinkRef}
    (hc : (s'.calls c).link = some l) : (s.calls c).link = some l ∨ e = .obtained c l := by
  cases hm with
  | brokenLink c' l' h => rw [resetLink_calls] at hc; exact Or.inl hc
  | released c' l' h => rw [(release_calls s c' c l').1] at hc; grind
  | _ => grind

theorem obtained_of_moved {k : Plugin} {s s' : State} {e : Event} (ho : Owned s) (hm : Moved k s s' e) {c : CallId}
    {l : LinkRef} (hc : s'.calls c = .obtained l) : s.calls c = .obtained l ∨ s.calls c = .idle := by
  cases hm with
  | brokenLink c' l' h => rw [resetLink_calls] at hc; exact Or.inl hc
  | released c' l' h =>
    simp only [State.release] at hc
    split at hc <;> grind
  | ready c' l' h =>
    have := ho.inside c' (by rw [h]; rfl)
    grind
  | _ => grind

theorem ticketed_of_moved {k : Plugin} {s s' : State} {e : Event} (hm : Moved k s s' e) {c : CallId}
    (hc : (s'.calls c).ticketed = true) :
    ((s.calls c).ticketed = true ∧ e ≠ .ticketDestroyed c) ∨ ∃ l, s.calls c = .obtained l := by
  cases hm with
  | brokenLink c' l' h => rw [resetLink_calls] at hc; exact Or.inl ⟨hc, by simp⟩
  | released c' l' h => rw [(release_calls s c' c l').2] at hc; grind
  | ticketDestroyed c' l' p e h hp =>
    by_cases hcc : c = c'
    · subst hcc; simp [Call.ticketed] at hc
    · exact Or.inl ⟨by simpa [hcc] using hc, by simpa using Ne.symm hcc⟩
  | _ => grind

theorem exited_of_moved {k : Plugin} {s s' : State} {e : Event} (hm : Moved k s s' e) {l : LinkRef} (hl : l < s.made)
    (hx : (s.links l).dispatcher_ = .exited) : (s'.links l).dispatcher_ = .exited := by
  cases hm with
  | brokenLink c' l' h => rw [(resetLink_flags s c' l' l).2.1]; exact hx
  | released c' l' h => rw [(release_flags s c' l' l).2.1]; exact hx
  | constructing c old h hj => grind
  | disconnected l' error inParse hm hd => simp only [Link.mayDisconnect] at hd; grind
  | exited l' hm hd => grind
  | _ => grind

/-- **A retired link stays retired** as long as nobody obtains it. -/
theorem retired_step {k : Plugin} {s s' : State} {e : Event} (ho : Owned s) (ht : Ticketed s) (hm : Moved k s s' e)
    {l : LinkRef} (hl : l < s.made) (hr : Retired s l) (he : ∀ c, e ≠ .obtained c l) : Retired s' l := by
  refine ⟨exited_of_moved hm hl hr.1, fun c hc => ?_⟩
  have hheld : (s.calls c).link = some l := (held_of_moved hm hc).resolve_right (he c)
  obtain ⟨hob, hfin⟩ := hr.2 c hheld
  refine ⟨fun l' h => ?_, fun htick => ?_⟩
  · rcases obtained_of_moved ho hm h with h | h
    · exact hob l' h
    · rw [h] at hheld; cases hheld
  · rcases ticketed_of_moved hm htick with ⟨h, hd⟩ | ⟨l', h⟩
    · obtain ⟨r, hr⟩ := hfin h
      exact finished_step ht hm hr hd
    · exact absurd h (hob l')

theorem retired_of_unheld {s : State} (ho : Owned s) {l : LinkRef} (h : (s.links l).owners = [])
    (hx : (s.links l).dispatcher_ = .exited) : Retired s l :=
  ⟨hx, fun c hc => by have := (ho.owner c l).1 hc; rw [h] at this; cases this⟩

theorem sole_keep {k : Plugin} {s s' : State} {e : Event} (ho : Owned s) (ht : Ticketed s) (hm : Moved k s s' e)
    (hs : Sole s) (hmade : s'.made = s.made) (hlink : s'.link_ = s.link_) (hlinking : s'.linking = s.linking)
    (he : ∀ c l, e = .obtained c l → Current s l) : Sole s' := by
  intro l hl
  rw [hmade] at hl
  rcases hs l hl with h | h
  · exact Or.inl (by rw [Current, hlink, hlinking]; exact h)
  · by_cases hcur : Current s l
    · exact Or.inl (by rw [Current, hlink, hlinking]; exact hcur)
    · exact Or.inr (retired_step ho ht hm hl h fun c hc => hcur (he c l hc))

theorem release_client (s : State) (c : CallId) (l : LinkRef) : (s.release c l).link_ = s.link_ ∧
    (s.release c l).linking = s.linking ∧ (s.release c l).made = s.made := by
  simp only [State.release]
  split <;> exact ⟨rfl, rfl, rfl⟩

theorem sole_step {k : Plugin} {s s' : State} {a : Action} {e : Event} (ho : Owned s) (ht : Ticketed s)
    (hq : QuietReplacement k s a) (hs : Sole s) (hstep : step k s a = some (s', e)) : Sole s' := by
  have hm := moved_of_step hstep
  -- a link that stops being current was joined, and nobody holds it
  have hjoined : ∀ l, s.linking.link = some l → s.exited l = true → Retired s l := fun l h hx =>
    retired_of_unheld ho (ho.unheld l h) (by simpa [State.exited] using hx)
  have hretired : ∀ l, l < s.made → Retired s l → (∀ c, e ≠ .obtained c l) → Retired s' l :=
    fun l hl hr he => retired_step ho ht hm hl hr he
  cases hm with
  | noLink c hc hf hl =>
    intro l hlt
    rcases hs l hlt with h | h
    · simp [Current, hl, hf, Linking.link] at h
    · exact Or.inr (hretired l hlt h (by simp))
  | brokenLink c l hc hf hl hb =>
    intro l' hlt
    have hmade : (s.resetLink c l).made = s.made := by unfold State.resetLink; split <;> rfl
    rw [hmade] at hlt
    by_cases hll : l' = l
    · subst hll
      rcases hq _ c l' hstep with hemp | hr
      · left; right
        simp [State.resetLink, hemp, Linking.link]
      · exact Or.inr (hretired l' hlt hr (by simp))
    · rcases hs l' hlt with h | h
      · exact absurd (h.eq ho (Or.inl hl)) hll
      · exact Or.inr (hretired l' hlt h (by simp))
  | sameLink c l hc hf hl hb => exact sole_keep ho ht (moved_of_step hstep) hs rfl rfl rfl (by
      intro c' l' h
      cases h
      exact Or.inl hl)
  | constructing c old hl hx =>
    intro l hlt
    by_cases hnew : l = s.made
    · exact Or.inl (Or.inr (by rw [hnew]; rfl))
    · have hlt' : l < s.made := by
        have : l < s.made + 1 := hlt
        omega
      rcases hs l hlt' with h | h
      · have hlink : s.linking.link = some l := by
          rcases h with h | h
          · rw [ho.locked (by rw [hl]; simp)] at h; cases h
          · exact h
        have hold : old = some l := by rw [hl] at hlink; exact hlink
        exact Or.inr (hretired l hlt' (hjoined l hlink (by rw [hold] at hx; simpa using hx)) (by simp))
      · exact Or.inr (hretired l hlt' h (by simp))
  | notConstructed c old hl hx =>
    intro l hlt
    rcases hs l hlt with h | h
    · have hlink : s.linking.link = some l := by
        rcases h with h | h
        · rw [ho.locked (by rw [hl]; simp)] at h; cases h
        · exact h
      have hold : old = some l := by rw [hl] at hlink; exact hlink
      exact Or.inr (hretired l hlt (hjoined l hlink (by rw [hold] at hx; simpa using hx)) (by simp))
    · exact Or.inr (hretired l hlt h (by simp))
  | ready c l hl =>
    intro l' hlt
    have hcur : Current s l := Or.inr (by rw [hl]; rfl)
    by_cases hll : l' = l
    · exact Or.inl (Or.inl (by rw [hll]))
    · rcases hs l' hlt with h | h
      · exact absurd (h.eq ho hcur) hll
      · exact Or.inr (hretired l' hlt h (by simpa using Ne.symm hll))
  | notReady c l hl =>
    intro l' hlt
    have hcur : Current s l := Or.inr (by rw [hl]; rfl)
    by_cases hll : l' = l
    · exact Or.inl (Or.inr (by rw [hll]; rfl))
    · rcases hs l' hlt with h | h
      · exact absurd (h.eq ho hcur) hll
      · exact Or.inr (hretired l' hlt h (by simp))
  | aborted c l hl hx =>
    intro l' hlt
    have hlink : s.linking.link = some l := by rw [hl]; rfl
    by_cases hll : l' = l
    · subst hll
      exact Or.inr (hretired l' hlt (hjoined l' hlink hx) (by simp))
    · rcases hs l' hlt with h | h
      · exact absurd (h.eq ho (Or.inr hlink)) hll
      · exact Or.inr (hretired l' hlt h (by simp))
  | released c l hc =>
    obtain ⟨h1, h2, h3⟩ := release_client s c l
    exact sole_keep ho ht (moved_of_step hstep) hs h3 h1 h2 (by simp)
  | _ => exact sole_keep ho ht (moved_of_step hstep) hs rfl rfl rfl (by simp)

/-! ## Isolation -/

theorem sweepsOwn_of_sole {k : Plugin} {s : State} (ho : Owned s) (ht : Ticketed s) (hs : Sole s) : SweepsOwn k s := by
  intro a s' l error hstep c hnone hsome
  have hm := moved_of_step hstep
  have hdisc : ∃ error' inParse, (s.links l).dispatcher_ = .disconnecting error' inParse := by
    cases hm with
    | failedAll l error inParse p e hd hp => exact ⟨error, inParse, hd⟩
  obtain ⟨error', inParse, hd⟩ := hdisc
  have hcur : Current s l := (hs l (ho.made_of_disconnecting hd)).resolve_right fun hr => by
    rw [hr.1] at hd; cases hd
  -- the call has a ticket, so it holds a link, and not a retired one
  have htick : (s.calls c).ticketed = true := by
    by_contra h
    have hb := became_of_moved ht hm c
    rw [hnone] at hb
    generalize s'.outcome c = after at hb hsome
    cases hb <;> simp_all
  obtain ⟨l', hl'⟩ : ∃ l', (s.calls c).link = some l' := by
    cases hcall : s.calls c <;> rw [hcall] at htick <;> first | exact ⟨_, rfl⟩ | cases htick
  have hcur' : Current s l' := (hs l' (ho.made_of_held hl')).resolve_right fun hr => by
    obtain ⟨r, h⟩ := (hr.2 c hl').2 htick
    rw [hnone] at h
    cases h
  rw [hl', hcur'.eq ho hcur]

/-- What a live ticket was failed with was its own link's error. -/
def Blamed (s : State) (t : List Event) : Prop :=
  ∀ c error, s.outcome c = some (.threw error) → ∃ l, .obtained c l ∈ t ∧ .failedAll l error ∈ t

theorem blamed_step {k : Plugin} {s s' : State} {t : List Event} {a : Action} {e : Event} (ht : Ticketed s)
    (hf : Flagged k s t) (hown : SweepsOwn k s) (hb : Blamed s t) (hstep : step k s a = some (s', e)) :
    Blamed s' (t ++ [e]) := by
  have hm := moved_of_step hstep
  intro c error hr
  have hbec := became_of_moved ht hm c
  rw [hr] at hbec
  have hold : ∀ error', s.outcome c = some (.threw error') →
      ∃ l, .obtained c l ∈ t ++ [e] ∧ .failedAll l error' ∈ t ++ [e] := by
    intro error' h
    obtain ⟨l, h1, h2⟩ := hb c error' h
    exact ⟨l, List.mem_append_left _ h1, List.mem_append_left _ h2⟩
  generalize hbefore : s.outcome c = before at hbec
  generalize hafter : (some (.threw error) : Option WaitResult) = after at hbec
  cases hbec with
  | same => exact hold error (hbefore.trans hafter.symm)
  | fresh => cases hafter
  | gone => cases hafter
  | drained r r₀ h0 he =>
    cases r₀ with
    | timedOut => cases hafter
    | returned bytes => cases hafter
    | threw error' =>
      cases hafter
      exact hold error (hbefore.trans h0)
  | answered l id bytes h0 htick he => cases hafter
  | swept l error' h0 htick he =>
    cases hafter
    subst he
    have hlink := hown a s' l error hstep c (hbefore.trans h0) (by rw [hr]; simp)
    exact ⟨l, List.mem_append_left _ (hf.obtained c l hlink), by simp⟩

theorem FailsOwn.append {t : List Event} {e : Event} (h : FailsOwn t)
    (he : ∀ c error, e = .waited c (.threw error) → ∃ l, .obtained c l ∈ t ∧ .failedAll l error ∈ t) :
    FailsOwn (t ++ [e]) := by
  intro pre c error post ht
  rcases List.eq_nil_or_concat post with rfl | ⟨post', x, rfl⟩
  · obtain ⟨rfl, hx⟩ := List.append_inj' ht rfl
    cases hx
    exact he c error rfl
  · rw [List.concat_eq_append, ← List.cons_append, ← List.append_assoc] at ht
    obtain ⟨rfl, -⟩ := List.append_inj' ht rfl
    exact h pre c error post' rfl

/-- The invariant of the runs whose replacements are quiet. -/
structure Isolated (k : Plugin) (s : State) (t : List Event) : Prop where
  owned : Owned s
  ticketed : Ticketed s
  flagged : Flagged k s t
  sole : Sole s
  blamed : Blamed s t
  fails : FailsOwn t

theorem isolated_init (k : Plugin) : Isolated k State.init [] :=
  ⟨owned_init, ticketed_init, flagged_init k, sole_init, fun _ _ h => (by cases h), fun pre c error post h => by
    cases pre <;> cases h⟩

theorem isolated_step {k : Plugin} {s s' : State} {t : List Event} {a : Action} {e : Event} (hi : Isolated k s t)
    (hq : QuietReplacement k s a) (hstep : step k s a = some (s', e)) : Isolated k s' (t ++ [e]) where
  owned := owned_step hi.owned (moved_of_step hstep)
  ticketed := ticketed_step hi.owned hi.ticketed (moved_of_step hstep)
  flagged := flagged_step hi.owned hi.flagged (moved_of_step hstep)
  sole := sole_step hi.owned hi.ticketed hq hi.sole hstep
  blamed := blamed_step hi.ticketed hi.flagged (sweepsOwn_of_sole hi.owned hi.ticketed hi.sole) hi.blamed hstep
  fails := hi.fails.append fun c error he => by
    subst he
    have hm := moved_of_step hstep
    cases hm with
    | waited c l slot result p hc hp =>
      have hr := wait_outcome hp
      cases ho : s.outcome c with
      | none => rw [ho] at hr; cases hr
      | some r =>
        rw [ho, Option.getD_some] at hr
        exact hi.blamed c error (by rw [ho, ← hr])

/-- **Isolation**: in a run that replaces a link only when no call still holds it, or only spent ones and a dispatcher
that is gone, every sweep finishes only its own link's tickets, and every call fails only with its own link's error. -/
theorem sweep_isolated (k : Plugin) {as : List Action} {s : State} {t : List Event}
    (hrun : Machine.run (step k) State.init as = some (s, t))
    (hquiet : Machine.Along (QuietReplacement k) (step k) State.init as) : SweepsOwn k s ∧ FailsOwn t := by
  have hi : Isolated k s t := Machine.run_along
    (fun s t a s' e hq hi hs => isolated_step hi hq hs) as hquiet (isolated_init k) hrun
  exact ⟨sweepsOwn_of_sole hi.owned hi.ticketed hi.sole, hi.fails⟩

theorem quiet_of_event {k : Plugin} {s s' : State} {a : Action} {e : Event} (hs : step k s a = some (s', e))
    (he : ∀ c l, e ≠ .replacing c (some l)) : QuietReplacement k s a := by
  intro s'' c l h
  rw [hs] at h
  cases h
  exact absurd rfl (he c l)

/-- The first link dies, its only call fails and leaves, and the next call replaces it. -/
def replacedAfterRelease : List Action :=
  [.currentLink 0, .construct 0 true, .ready 0 true, .register 0 ['a'], .publish 0, .transmit 0 (.ok true),
    .disconnect 0 "RabbitMQ: socket error".toList false, .failAll 0, .wait 0, .destroyTicket 0, .release 0,
    .currentLink 1]

theorem sweep_isolated_replaced :
    ∃ s t, Machine.run (step (.rabbitMq ['q'])) State.init replacedAfterRelease = some (s, t) ∧
      .replacing 1 (some 0) ∈ t ∧ SweepsOwn (.rabbitMq ['q']) s ∧ FailsOwn t := by
  have hrun : ∃ s t, Machine.run (step (.rabbitMq ['q'])) State.init replacedAfterRelease = some (s, t) ∧
      .replacing 1 (some 0) ∈ t := ⟨_, _, rfl, by decide⟩
  have hquiet : Machine.Along (QuietReplacement (.rabbitMq ['q'])) (step (.rabbitMq ['q'])) State.init
      replacedAfterRelease := by
    unfold replacedAfterRelease
    iterate 11 refine Machine.along_cons rfl (quiet_of_event rfl (by simp)) ?_
    exact Machine.along_cons rfl (fun s' c l h => Or.inl (by cases h; rfl)) trivial
  obtain ⟨s, t, hr, hm⟩ := hrun
  exact ⟨s, t, hr, hm, sweep_isolated _ hr hquiet⟩

/-- RabbitMQ: call 0 waits on the first link when its broker goes away; call 1 gets the next link before the sweep. -/
def sweepAfterReplacement : List Action :=
  [.currentLink 0, .construct 0 true, .ready 0 true, .register 0 ['a'], .publish 0, .transmit 0 (.ok true),
    .disconnect 0 ['e'] false, .currentLink 1, .construct 1 true, .ready 1 true, .register 1 ['b'], .publish 1,
    .transmit 1 (.ok true), .failAll 0, .wait 1]

/-- Service Bus: call 0 waits on the first link when the send of call 1 fails there; call 2 gets the next link, and then
the receiver of the first one fails. -/
def receiverAfterReplacement : List Action :=
  [.currentLink 0, .construct 0 true, .ready 0 true, .register 0 ['a'], .send 0 (.ok true),
    .currentLink 1, .register 1 ['b'], .send 1 (.ok false), .currentLink 2, .construct 2 true, .ready 2 true,
    .register 2 ['c'], .send 2 (.ok true), .disconnect 0 ['e'] false, .failAll 0, .wait 2]

theorem sweep_crosses_links :
    (∃ s t, Machine.run (step (.rabbitMq ['q'])) State.init sweepAfterReplacement = some (s, t) ∧ ¬ FailsOwn t) ∧
      ∃ s t, Machine.run (step .serviceBus) State.init receiverAfterReplacement = some (s, t) ∧ ¬ FailsOwn t := by
  constructor
  · have hrun : ∃ s, Machine.run (step (.rabbitMq ['q'])) State.init sweepAfterReplacement = some (s,
        [.replacing 0 none, .constructing 0 0, .obtained 0 0, .registered 0 ['a'], .checked 0, .published 0,
          .disconnected 0 ['e'], .replacing 1 (some 0), .constructing 1 1, .obtained 1 1, .registered 1 ['b'],
          .checked 1, .published 1, .failedAll 0 ['e']] ++ .waited 1 (.threw ['e']) :: []) := ⟨_, rfl⟩
    obtain ⟨s, hr⟩ := hrun
    refine ⟨s, _, hr, fun h => ?_⟩
    obtain ⟨l, hob, hsw⟩ := h _ 1 ['e'] [] rfl
    simp_all
  · have hrun : ∃ s, Machine.run (step .serviceBus) State.init receiverAfterReplacement = some (s,
        [.replacing 0 none, .constructing 0 0, .obtained 0 0, .registered 0 ['a'], .published 0, .obtained 1 0,
          .registered 1 ['b'], .publishFailed 1 "failed to send Service Bus message".toList, .replacing 2 (some 0),
          .constructing 2 1, .obtained 2 1, .registered 2 ['c'], .published 2, .disconnected 0 ['e'],
          .failedAll 0 ['e']] ++ .waited 2 (.threw ['e']) :: []) := ⟨_, rfl⟩
    obtain ⟨s, hr⟩ := hrun
    refine ⟨s, _, hr, fun h => ?_⟩
    obtain ⟨l, hob, hsw⟩ := h _ 2 ['e'] [] rfl
    simp_all

end LinkClient
end Graftcode
