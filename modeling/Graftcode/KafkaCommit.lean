import Mathlib.Data.List.Infix
import Graftcode.KafkaServer
/-!
# KafkaCommit — which replies a committed offset leaves behind

A commit is cumulative: it covers every record of its partition up to its own.  A record that succeeded but whose reply
was not flushed is *unanswered*.  The loop commits only the record in hand, so what has to be shown is that no other
unanswered record is covered (the consumer group hands them out again first), and that the one in hand is answered.
The second fails where `flush` reports an error: the loop logs it and commits.
-/
namespace Graftcode
namespace Kafka

open Prog (emit call ofExcept attempt iterate)

/-! ## Histories, latest event first -/

/-- `processMessage` returned `true` on the record, whose reply has somewhere to go. -/
def Succeeded (config : KafkaServerConfig) (r : Record) (h : List Event) : Prop :=
  replyToOf config r ≠ [] ∧
    ∃ writes, [.processMessage r.payload writes (.ok true), .processConfigured true, .consume (.record r)] <:+: h

/-- The reply of such a success was produced and flushed without error. -/
def Replied (config : KafkaServerConfig) (r : Record) (h : List Event) : Prop :=
  ∃ writes, [.flush 10000 none,
    .produce (replyToOf config r) (replyHeader (correlationIdOf r)) (responseOf writes) none,
    .processMessage r.payload writes (.ok true), .processConfigured true, .consume (.record r)] <:+: h

def Unanswered (config : KafkaServerConfig) (r : Record) (h : List Event) : Prop :=
  Succeeded config r h ∧ ¬ Replied config r h

/-- A commit that went through covers the record. -/
def Committed (r : Record) (h : List Event) : Prop :=
  ∃ r', .commitSync r' none ∈ h ∧ r'.partition = r.partition ∧ r.offset ≤ r'.offset

/-- The records the present consumer has been given. -/
def consumedNow : List Event → List Record
  | []                            => []
  | .createConsumer (.ok ()) :: _ => []
  | .consume (.record r) :: h     => r :: consumedNow h
  | _ :: h                        => consumedNow h

/-- **What a commit must not leave behind**: each record it covers that succeeded has been replied to. -/
def CommitsAfterReply (config : KafkaServerConfig) (h : List Event) (e : Event) : Prop :=
  ∀ r error, e = .commitSync r error →
    ∀ r', Succeeded config r' h → r'.partition = r.partition → r'.offset ≤ r.offset → Replied config r' h

/-- How a consumer group hands out a partition: from its committed offset on, in order, and from there again to every
new consumer. -/
structure HandedOut (h : List Event) (r : Record) : Prop where
  uncommitted : ¬ Committed r h
  same : ∀ r', .consume (.record r') ∈ h → r'.partition = r.partition → r'.offset = r.offset → r' = r
  inOrder : ∀ r', .consume (.record r') ∈ h → r'.partition = r.partition → r'.offset < r.offset →
    Committed r' h ∨ r' ∈ consumedNow h

def FromCommitted (h : List Event) (e : Event) : Prop := ∀ r, e = .consume (.record r) → HandedOut h r

/-- The flush of a reply reports no error, and a record that is unanswered from an earlier delivery is not given up:
the callback is there and does not return `false` on it. -/
structure Orderly (config : KafkaServerConfig) (h : List Event) (e : Event) : Prop where
  flushed : ∀ error, e = .flush 10000 error → error = none
  configured : ∀ r earlier, e = .processConfigured false → h = .consume (.record r) :: earlier →
    ¬ Unanswered config r h
  accepted : ∀ r earlier payload writes, e = .processMessage payload writes (.ok false) →
    h = .processConfigured true :: .consume (.record r) :: earlier → ¬ Unanswered config r h

/-! ## How histories grow -/

/-- Events that consume, succeed or commit nothing and start no consumer. -/
def Neutral : Event → Prop
  | .createConsumer (.ok _)         => False
  | .consume (.record _)            => False
  | .processMessage _ _ (.ok true)  => False
  | .commitSync _ _                 => False
  | _                               => True

section Histories

variable {config : KafkaServerConfig} {r : Record} {h : List Event} {e : Event}

theorem Replied.cons (hr : Replied config r h) (e : Event) : Replied config r (e :: h) := by
  obtain ⟨writes, hi⟩ := hr
  exact ⟨writes, List.infix_cons hi⟩

theorem succeeded_cons (hs : Succeeded config r (e :: h)) :
    Succeeded config r h ∨ ∃ writes earlier, e = .processMessage r.payload writes (.ok true) ∧
      h = .processConfigured true :: .consume (.record r) :: earlier := by
  obtain ⟨hto, writes, hi⟩ := hs
  rcases List.infix_cons_iff.1 hi with ⟨earlier, hp⟩ | hi
  · simp only [List.cons_append, List.nil_append, List.cons.injEq] at hp
    exact Or.inr ⟨writes, earlier, hp.1.symm, hp.2.symm⟩
  · exact Or.inl ⟨hto, writes, hi⟩

theorem unanswered_cons (hu : Unanswered config r (e :: h))
    (he : ∀ writes earlier, e = .processMessage r.payload writes (.ok true) →
      h ≠ .processConfigured true :: .consume (.record r) :: earlier) : Unanswered config r h := by
  refine ⟨?_, fun hr => hu.2 (hr.cons e)⟩
  rcases succeeded_cons hu.1 with hs | ⟨writes, earlier, h1, h2⟩
  · exact hs
  · exact absurd h2 (he writes earlier h1)

theorem unanswered_cons_of_ne (hu : Unanswered config r (e :: h))
    (he : ∀ payload writes, e ≠ .processMessage payload writes (.ok true)) : Unanswered config r h :=
  unanswered_cons hu fun writes _ heq => absurd heq (he r.payload writes)

theorem Neutral.unanswered (hn : Neutral e) (hu : Unanswered config r (e :: h)) : Unanswered config r h :=
  unanswered_cons_of_ne hu fun _ _ heq => by rw [heq] at hn; exact hn

theorem committed_cons (he : ∀ r', e ≠ .commitSync r' none) : Committed r (e :: h) ↔ Committed r h := by
  constructor
  · rintro ⟨r', hm, hc⟩
    rcases List.mem_cons.1 hm with heq | hm
    · exact absurd heq.symm (he r')
    · exact ⟨r', hm, hc⟩
  · rintro ⟨r', hm, hc⟩
    exact ⟨r', List.mem_cons_of_mem _ hm, hc⟩

theorem not_committed_cons (hc : ¬ Committed r h) (he : ∀ r', e ≠ .commitSync r' none) : ¬ Committed r (e :: h) :=
  mt (committed_cons he).1 hc

theorem Neutral.committed (hn : Neutral e) : Committed r (e :: h) ↔ Committed r h :=
  committed_cons fun _ heq => by rw [heq] at hn; exact hn

theorem Neutral.consumedNow (hn : Neutral e) : consumedNow (e :: h) = consumedNow h := by
  match e with
  | .createConsumer (.ok _) => exact absurd hn id
  | .consume (.record _) => exact absurd hn id
  | .createConsumer (.error _) | .consume .nothing | .consume .idle | .consume (.error _) | .running _
  | .createProducer _ | .subscribe _ _ | .processConfigured _ | .processMessage _ _ _ | .produce _ _ _ _ | .flush _ _
  | .commitSync _ _ | .close _ => rfl

end Histories

/-! ## The invariants -/

/-- At all times: no commit that went through covers an unanswered record. -/
def Uncovered (config : KafkaServerConfig) (h : List Event) : Prop :=
  ∀ r, Unanswered config r h → ¬ Committed r h

/-- Between two records: moreover the present consumer has not been given any unanswered record. -/
def AtHead (config : KafkaServerConfig) (h : List Event) : Prop :=
  ∀ r, Unanswered config r h → ¬ Committed r h ∧ r ∉ consumedNow h

/-- With `r` in hand: all other unanswered records are beyond what committing `r` covers. -/
structure InHand (config : KafkaServerConfig) (r : Record) (h : List Event) : Prop where
  uncovered : Uncovered config h
  fresh : ¬ Committed r h
  beyond : ∀ r', Unanswered config r' h → r' ≠ r →
    r' ∉ consumedNow h ∧ (r'.partition = r.partition → r.offset < r'.offset)

section Invariants

variable {config : KafkaServerConfig} {r : Record} {h : List Event} {e : Event}

theorem AtHead.uncovered (hh : AtHead config h) : Uncovered config h := fun r hu => (hh r hu).1

theorem Uncovered.neutral (hu : Uncovered config h) (hn : Neutral e) : Uncovered config (e :: h) :=
  fun r hr => by rw [hn.committed]; exact hu r (hn.unanswered hr)

theorem AtHead.neutral (hh : AtHead config h) (hn : Neutral e) : AtHead config (e :: h) :=
  fun r hr => by rw [hn.committed, hn.consumedNow]; exact hh r (hn.unanswered hr)

theorem InHand.neutral (hi : InHand config r h) (hn : Neutral e) : InHand config r (e :: h) where
  uncovered := hi.uncovered.neutral hn
  fresh := by rw [hn.committed]; exact hi.fresh
  beyond r' hu hne := by rw [hn.consumedNow]; exact hi.beyond r' (hn.unanswered hu) hne

theorem Uncovered.createConsumer (hu : Uncovered config h) : AtHead config (.createConsumer (.ok ()) :: h) := by
  intro r hr
  exact ⟨not_committed_cons (hu r (unanswered_cons_of_ne hr nofun)) nofun, List.not_mem_nil⟩

/-- What the group hands out next leaves every other unanswered record beyond it. -/
theorem AtHead.consume (hh : AtHead config h) (hr : HandedOut h r) : InHand config r (.consume (.record r) :: h) where
  uncovered r' hu := not_committed_cons (hh r' (unanswered_cons_of_ne hu nofun)).1 nofun
  fresh := not_committed_cons hr.uncommitted nofun
  beyond r' hu hne := by
    have hu' := unanswered_cons_of_ne hu nofun
    obtain ⟨hc, hn⟩ := hh r' hu'
    refine ⟨fun hm => ?_, fun hp => ?_⟩
    · rcases List.mem_cons.1 hm with heq | hm
      · exact hne heq
      · exact hn hm
    · -- the success itself shows that it has been handed out before
      obtain ⟨writes, hi⟩ := hu'.1.2
      have hm : .consume (.record r') ∈ h := hi.subset (by simp)
      rcases Nat.lt_trichotomy r'.offset r.offset with hlt | heq | hgt
      · exact ((hr.inOrder r' hm hp hlt).elim hc hn).elim
      · exact absurd (hr.same r' hm hp heq) hne
      · exact hgt

theorem InHand.succeed {earlier : List Event}
    (hi : InHand config r (.processConfigured true :: .consume (.record r) :: earlier))
    (writes : List (Option Bytes)) :
    InHand config r (.processMessage r.payload writes (.ok true) :: .processConfigured true ::
      .consume (.record r) :: earlier) := by
  have hother : ∀ r', r' ≠ r → Unanswered config r' (.processMessage r.payload writes (.ok true) ::
      .processConfigured true :: .consume (.record r) :: earlier) →
      Unanswered config r' (.processConfigured true :: .consume (.record r) :: earlier) := by
    intro r' hne hu
    refine unanswered_cons hu fun writes' earlier' _ heq => hne ?_
    simp only [List.cons.injEq, true_and, Event.consume.injEq, Consumed.record.injEq] at heq
    exact heq.1.symm
  have hnow : consumedNow (.processMessage r.payload writes (.ok true) :: .processConfigured true ::
      .consume (.record r) :: earlier) = consumedNow (.processConfigured true :: .consume (.record r) :: earlier) := rfl
  refine ⟨fun r' hu => not_committed_cons ?_ nofun, not_committed_cons hi.fresh nofun, fun r' hu hne => ?_⟩
  · by_cases hr : r' = r
    · rw [hr]
      exact hi.fresh
    · exact hi.uncovered r' (hother r' hr hu)
  · rw [hnow]
    exact hi.beyond r' (hother r' hne hu) hne

theorem InHand.commit (hi : InHand config r h) (hr : ¬ Unanswered config r h) (error : ErrorCode) :
    CommitsAfterReply config h (.commitSync r error) ∧ AtHead config (.commitSync r error :: h) := by
  have hne : ∀ r', Unanswered config r' h → r' ≠ r := by
    rintro r' hu rfl
    exact hr hu
  refine ⟨?_, fun r' hu => ?_⟩
  · rintro r₁ error' heq r' hs hp ho
    cases heq
    by_contra hn
    exact absurd ((hi.beyond r' ⟨hs, hn⟩ (hne r' ⟨hs, hn⟩)).2 hp) (Nat.not_lt.2 ho)
  · have hu' := unanswered_cons_of_ne hu nofun
    obtain ⟨hnow, hbeyond⟩ := hi.beyond r' hu' (hne r' hu')
    refine ⟨?_, hnow⟩
    rintro ⟨r₁, hm, hp, ho⟩
    rcases List.mem_cons.1 hm with heq | hm
    · cases heq
      exact absurd (hbeyond hp.symm) (Nat.not_lt.2 ho)
    · exact hi.uncovered r' hu' ⟨r₁, hm, hp, ho⟩

end Invariants

/-! ## The loop keeps them -/

/-- What the outside answers with. -/
def Allowed (config : KafkaServerConfig) (h : List Event) (e : Event) : Prop := FromCommitted h e ∧ Orderly config h e

/-- Where a part of the loop leaves: at its head, or, after an exception, with nothing unanswered covered. -/
def Left (config : KafkaServerConfig) : List Event → Except Exn Unit → Prop
  | h, .ok ()   => AtHead config h
  | h, .error _ => Uncovered config h

section Loop

variable {config : KafkaServerConfig} {r : Record} {h : List Event}

theorem commitsAfterReply_of_ne {e : Event} (he : ∀ r error, e ≠ .commitSync r error) : CommitsAfterReply config h e :=
  fun r error heq => absurd heq (he r error)

theorem Left.uncovered {x : Except Exn Unit} (hl : Left config h x) : Uncovered config h := by
  cases x with
  | ok u => exact AtHead.uncovered hl
  | error e => exact hl

theorem safe_commitSync (hi : InHand config r h) (hr : ¬ Unanswered config r h) :
    (commitSync r).Safe (Allowed config) (CommitsAfterReply config) (Left config) h := by
  rw [commitSync, Prog.safe_bind, Prog.safe_emit]
  exact fun error _ => hi.commit hr error

theorem safe_reply {writes : List (Option Bytes)} {earlier : List Event}
    (hi : InHand config r (.processMessage r.payload writes (.ok true) :: .processConfigured true ::
      .consume (.record r) :: earlier)) :
    (reply (replyToOf config r) (correlationIdOf r) (responseOf writes)).Safe (Allowed config)
      (CommitsAfterReply config)
      (fun h' x => InHand config r h' ∧ (x = .ok () → ¬ Unanswered config r h'))
      (.processMessage r.payload writes (.ok true) :: .processConfigured true :: .consume (.record r) :: earlier) := by
  unfold reply
  split
  · rename_i hempty
    exact ⟨hi, fun _ hu => hu.1.1 (List.isEmpty_iff.1 hempty)⟩
  · simp only [publishReply, Prog.safe_bind, Prog.safe_emit]
    intro error _
    refine ⟨commitsAfterReply_of_ne nofun, ?_⟩
    have hi' := @InHand.neutral config r _ (.produce (replyToOf config r) (replyHeader (correlationIdOf r))
      (responseOf writes) error) hi trivial
    cases error with
    | some text => exact ⟨hi', nofun⟩
    | none =>
      intro error hallowed
      refine ⟨commitsAfterReply_of_ne nofun, hi'.neutral trivial, fun _ hu => hu.2 ?_⟩
      rw [hallowed.2.flushed error rfl]
      exact ⟨writes, (List.prefix_append _ earlier).isInfix⟩

theorem safe_handleRecord {earlier : List Event} (hi : InHand config r (.consume (.record r) :: earlier)) :
    (handleRecord config r).Safe (Allowed config) (CommitsAfterReply config) (Left config)
      (.consume (.record r) :: earlier) := by
  unfold handleRecord
  simp only [Prog.safe_bind, Prog.safe_emit, Prog.andThen_ok]
  intro configured hallowed
  refine ⟨commitsAfterReply_of_ne nofun, ?_⟩
  have hi' := @InHand.neutral config r _ (.processConfigured configured) hi trivial
  cases configured with
  | false =>
    refine safe_commitSync hi' fun hu => hallowed.2.configured r earlier rfl rfl ?_
    exact @Neutral.unanswered config r _ (.processConfigured false) trivial hu
  | true =>
    simp only [Bool.not_true, Bool.false_eq_true, if_false, processMessage, Prog.safe_bind, Prog.safe_emit,
      Prog.andThen_ok, Prog.safe_ofExcept]
    rintro ⟨writes, result⟩ hallowed'
    refine ⟨commitsAfterReply_of_ne nofun, ?_⟩
    match result with
    | .error e => exact (hi'.neutral (e := .processMessage r.payload writes (.error e)) trivial).uncovered
    | .ok false =>
      refine safe_commitSync (hi'.neutral trivial) fun hu => hallowed'.2.accepted r earlier r.payload writes rfl rfl ?_
      exact @Neutral.unanswered config r _ (.processMessage r.payload writes (.ok false)) trivial hu
    | .ok true =>
      simp only [Except.map, Prog.andThen_ok, Bool.not_true, Bool.false_eq_true, if_false, Prog.safe_bind]
      refine (safe_reply (hi'.succeed writes)).mono fun h' x hx => ?_
      cases x with
      | error e => exact hx.1.uncovered
      | ok u => exact safe_commitSync hx.1 (hx.2 rfl)

theorem safe_receive (fuel : Nat) (hh : AtHead config h) :
    (receive config fuel).Safe (Allowed config) (CommitsAfterReply config) (Left config) h := by
  refine Prog.safe_iterate (fun _ h => AtHead config h) (fun _ h hh => ?_) fuel () h hh
  simp only [Prog.safe_bind, Prog.safe_emit, Prog.andThen_ok]
  intro running _
  refine ⟨commitsAfterReply_of_ne nofun, ?_⟩
  have hh' := @AtHead.neutral config _ (.running running) hh trivial
  split
  · exact hh'
  simp only [Prog.safe_bind, Prog.safe_emit, Prog.andThen_ok]
  intro consumed hallowed
  refine ⟨commitsAfterReply_of_ne nofun, ?_⟩
  match consumed with
  | .nothing => exact hh'.neutral trivial
  | .idle => exact hh'.neutral trivial
  | .error errstr => exact hh'.neutral trivial
  | .record r =>
    simp only [Prog.safe_bind]
    refine (safe_handleRecord (hh'.consume (hallowed.1 r rfl))).mono fun h' x hx => ?_
    cases x with
    | ok u => exact hx
    | error e => exact hx

theorem safe_closeConsumer (hu : Uncovered config h) :
    closeConsumer.Safe (Allowed config) (CommitsAfterReply config) (fun h' _ => Uncovered config h') h := by
  simp only [closeConsumer, Prog.safe_bind, Prog.safe_attempt, Prog.safe_call]
  intro result _
  refine ⟨commitsAfterReply_of_ne nofun, ?_⟩
  have hu' := @Uncovered.neutral config _ (.close result) hu trivial
  cases result <;> exact hu'

theorem safe_consumeAndClose (fuel : Nat) (hu : Uncovered config h) :
    (consumeAndClose config fuel).Safe (Allowed config) (CommitsAfterReply config)
      (fun h' _ => Uncovered config h') h := by
  unfold consumeAndClose
  simp only [Prog.safe_bind, Prog.safe_attempt, Prog.safe_call]
  intro result _
  refine ⟨commitsAfterReply_of_ne nofun, ?_⟩
  cases result with
  | error e => exact @Uncovered.neutral config _ (.createConsumer (.error e)) hu trivial
  | ok u =>
    simp only [Prog.attempted_ok, Prog.andThen_ok, subscribe, Prog.safe_bind, Prog.safe_attempt, Prog.safe_emit]
    intro error _
    refine ⟨commitsAfterReply_of_ne nofun, ?_⟩
    have hh := @AtHead.neutral config _ (.subscribe config.requestTopic error) hu.createConsumer trivial
    cases error with
    | some text => exact safe_closeConsumer hh.uncovered
    | none =>
      refine (safe_receive fuel hh).mono fun h' x hx => ?_
      cases x with
      | ok u => exact safe_closeConsumer hx.uncovered
      | error e => exact safe_closeConsumer hx.uncovered

theorem safe_connection (fuel : Nat) (hu : Uncovered config h) :
    (connection config fuel).Safe (Allowed config) (CommitsAfterReply config) (fun h' _ => Uncovered config h') h := by
  unfold connection
  simp only [Prog.safe_bind, Prog.safe_attempt, Prog.safe_call]
  intro result _
  refine ⟨commitsAfterReply_of_ne nofun, ?_⟩
  have hu' := @Uncovered.neutral config _ (.createProducer result) hu trivial
  cases result with
  | error e => exact hu'
  | ok u =>
    refine (Prog.safe_bind ..).mpr ((safe_consumeAndClose fuel hu').mono fun h' x hx => ?_)
    cases x with
    | error e => exact hx
    | ok u => exact fun error _ => ⟨commitsAfterReply_of_ne nofun, hx.neutral trivial⟩

theorem safe_loop (fuel : Nat) :
    (loop config fuel).Safe (Allowed config) (CommitsAfterReply config) (fun _ _ => True) [] := by
  have hstart : Uncovered config [] := by
    rintro r ⟨⟨-, writes, hi⟩, -⟩
    simp at hi
  refine Prog.safe_iterate (fun _ h => Uncovered config h) (fun _ h hu => ?_) fuel () [] hstart
  simp only [Prog.safe_bind, Prog.safe_emit, Prog.andThen_ok]
  intro running _
  refine ⟨commitsAfterReply_of_ne nofun, ?_⟩
  have hu' := @Uncovered.neutral config _ (.running running) hu trivial
  split
  · trivial
  rw [Prog.safe_bind]
  refine (safe_connection fuel hu').mono fun h' x hx => ?_
  cases x with
  | ok u => exact hx
  | error e => trivial

end Loop

def RepliesBeforeCommits (config : KafkaServerConfig) (t : List Event) : Prop :=
  ∀ before r error after, t = before ++ .commitSync r error :: after →
    ∀ r', Succeeded config r' before.reverse → r'.partition = r.partition → r'.offset ≤ r.offset →
      Replied config r' before.reverse

/-- **Replies before commits**, in every run in which no flush of a reply fails and no unanswered record is given up. -/
theorem replies_before_commits {config : KafkaServerConfig} {fuel : Nat} {t : List Event} {o : Outcome Exn Unit}
    (hr : (loop config fuel).Runs t o) (hkafka : Prog.Admits FromCommitted [] t)
    (horderly : Prog.Admits (Orderly config) [] t) : RepliesBeforeCommits config t := by
  intro before r error after ht
  have hallowed : Prog.Admits (Allowed config) [] t := by
    rw [Prog.admits_iff] at hkafka horderly ⊢
    exact fun pre e post hs => ⟨hkafka pre e post hs, horderly pre e post hs⟩
  have hj := (Prog.admits_iff _ _ _).1 ((safe_loop fuel).admits hr hallowed) before _ after ht
  rw [List.append_nil] at hj
  exact hj r error rfl

def demoRecord : Record := ⟨0, 0, [1], [("correlation-id".toList, some ['a']), ("reply-to".toList, some ['r'])]⟩

/-- It is served and committed; its reply is flushed with this result. -/
def demoRun (flushed : ErrorCode) : List Event :=
  [.running true, .createProducer (.ok ()), .createConsumer (.ok ()), .subscribe "graft.requests".toList none,
    .running true, .consume (.record demoRecord), .processConfigured true, .processMessage [1] [some [2]] (.ok true),
    .produce ['r'] (some ['a']) [2] none, .flush 10000 flushed, .commitSync demoRecord none]

theorem runs_demoRun (flushed : ErrorCode) : (loop {} 1).Runs (demoRun flushed) .cut := by
  refine Prog.runs_ask.2 ⟨true, rfl, ?_⟩
  refine Prog.runs_ask.2 ⟨.ok (), rfl, ?_⟩
  refine Prog.runs_ask.2 ⟨.ok (), rfl, ?_⟩
  refine Prog.runs_ask.2 ⟨none, rfl, ?_⟩
  refine Prog.runs_ask.2 ⟨true, rfl, ?_⟩
  refine Prog.runs_ask.2 ⟨.record demoRecord, rfl, ?_⟩
  refine Prog.runs_ask.2 ⟨true, rfl, ?_⟩
  refine Prog.runs_ask.2 ⟨([some [2]], .ok true), rfl, ?_⟩
  refine Prog.runs_ask.2 ⟨none, rfl, ?_⟩
  refine Prog.runs_ask.2 ⟨flushed, rfl, ?_⟩
  refine Prog.runs_ask.2 ⟨none, rfl, ?_⟩
  exact ⟨rfl, rfl⟩

theorem fromCommitted_demoRun (flushed : ErrorCode) : Prog.Admits FromCommitted [] (demoRun flushed) := by
  have hne : ∀ {h e}, (∀ r, e ≠ .consume (.record r)) → FromCommitted h e := fun he r heq => absurd heq (he r)
  refine ⟨hne nofun, hne nofun, hne nofun, hne nofun, hne nofun, ?_, hne nofun, hne nofun, hne nofun, hne nofun,
    hne nofun, trivial⟩
  rintro r -
  refine ⟨?_, ?_, ?_⟩
  · rintro ⟨r', hm, -⟩
    simp at hm
  · intro r' hm
    simp at hm
  · intro r' hm
    simp at hm

theorem replies_before_commits_demo : RepliesBeforeCommits {} (demoRun none) := by
  apply replies_before_commits (runs_demoRun none) (fromCommitted_demoRun none)
  have hne : ∀ {h e}, (∀ error, e ≠ .flush 10000 error) → e ≠ .processConfigured false →
      (∀ payload writes, e ≠ .processMessage payload writes (.ok false)) → Orderly {} h e :=
    fun h1 h2 h3 => ⟨fun error heq => absurd heq (h1 error), fun _ _ heq => absurd heq h2,
      fun _ _ payload writes heq => absurd heq (h3 payload writes)⟩
  exact ⟨hne nofun nofun nofun, hne nofun nofun nofun, hne nofun nofun nofun, hne nofun nofun nofun,
    hne nofun nofun nofun, hne nofun nofun nofun, hne nofun nofun nofun, hne nofun nofun nofun, hne nofun nofun nofun,
    ⟨fun error heq => by cases heq; rfl, nofun, nofun⟩, hne nofun nofun nofun, trivial⟩

/-- A flush that ran out of time is followed by the commit. -/
theorem commits_unflushed :
    (loop {} 1).Runs (demoRun (some "timed out".toList)) .cut ∧
      Prog.Admits FromCommitted [] (demoRun (some "timed out".toList)) ∧
      ¬ RepliesBeforeCommits {} (demoRun (some "timed out".toList)) := by
  refine ⟨runs_demoRun _, fromCommitted_demoRun _, fun hall => ?_⟩
  have hsucceeded : Succeeded {} demoRecord ((demoRun (some "timed out".toList)).take 10).reverse :=
    ⟨by decide, [some [2]], [.flush 10000 (some "timed out".toList), .produce ['r'] (some ['a']) [2] none],
      [.running true, .subscribe "graft.requests".toList none, .createConsumer (.ok ()), .createProducer (.ok ()),
        .running true], rfl⟩
  obtain ⟨writes, hi⟩ := hall ((demoRun (some "timed out".toList)).take 10) demoRecord none [] rfl demoRecord hsucceeded
    rfl le_rfl
  have hm : Event.flush 10000 none ∈ ((demoRun (some "timed out".toList)).take 10).reverse := hi.subset (by simp)
  simp [demoRun] at hm

end Kafka
end Graftcode
