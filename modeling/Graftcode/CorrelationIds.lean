import Mathlib.Data.List.Nodup
import Graftcode.Machine
import Graftcode.Numerals
/-!
# CorrelationIds — the ids the clients put on their requests

`NewCorrelationId` of `SqsUtil.cpp` and `PubSubUtil.cpp` and `makeUuidV4` of `KafkaUtil.h` write random words;
`BuildCorrelationId` of `RabbitMqClient.cpp` and `ServiceBusClient.cpp` writes a thread, a clock reading and a counter
that all threads of the process share.
-/
namespace Graftcode

open Numeral (hex decimal signed IsHex)

/-! ## Random words -/

/-- `NewCorrelationId` of the SQS and the Pub/Sub plugin, from two draws of the engine. -/
def newCorrelationId (first second : UInt64) : Text := hex 16 first.toNat ++ hex 16 second.toNat

/-- `makeUuidV4`, from two draws of the distribution. -/
def makeUuidV4 (a b : UInt64) : Text :=
  let timeLow := a &&& 0xFFFFFFFF
  let timeMid := (a >>> 32) &&& 0xFFFF
  let timeHi := ((a >>> 48) &&& 0x0FFF) ||| 0x4000
  let clockSeq := ((b >>> 48) &&& 0x3FFF) ||| 0x8000
  let node := b &&& 0xFFFFFFFFFFFF
  hex 8 timeLow.toNat ++ '-' :: (hex 4 timeMid.toNat ++ '-' :: (hex 4 timeHi.toNat ++ '-' ::
    (hex 4 clockSeq.toNat ++ '-' :: hex 12 node.toNat)))

theorem length_newCorrelationId (first second : UInt64) : (newCorrelationId first second).length = 32 := by
  have hlength : ∀ word : UInt64, (hex 16 word.toNat).length = 16 := fun word =>
    Numeral.length_hex (by decide) word.toNat_lt
  rw [newCorrelationId, List.length_append, hlength, hlength]

theorem isHex_newCorrelationId {first second : UInt64} {c : Char} (hc : c ∈ newCorrelationId first second) :
    IsHex c := by
  rcases List.mem_append.1 hc with hc | hc
  · exact Numeral.isHex_of_mem_hex hc
  · exact Numeral.isHex_of_mem_hex hc

theorem newCorrelationId_inj {first second first' second' : UInt64} :
    newCorrelationId first second = newCorrelationId first' second' ↔ first = first' ∧ second = second' := by
  constructor
  · intro h
    have hlength : (hex 16 first.toNat).length = (hex 16 first'.toNat).length := by
      rw [Numeral.length_hex (by decide) first.toNat_lt, Numeral.length_hex (by decide) first'.toNat_lt]
    obtain ⟨hfirst, hsecond⟩ := List.append_inj h hlength
    exact ⟨UInt64.toNat_inj.1 (Numeral.hex_injective 16 hfirst), UInt64.toNat_inj.1 (Numeral.hex_injective 16 hsecond)⟩
  · rintro ⟨rfl, rfl⟩
    rfl

/-- It is read whole through `c_str()`. -/
@[simp] theorem cString_newCorrelationId (first second : UInt64) :
    cString (newCorrelationId first second) = newCorrelationId first second :=
  (cString_eq_self _).2 fun hm => absurd (isHex_newCorrelationId hm) (by decide)

/-! ### The fields of a UUID -/

/-- The text form of a random UUID: five groups of digits, its version 4 and its variant 1. -/
def IsUuidV4 (text : Text) : Prop :=
  ∃ timeLow timeMid timeHi clockSeq node : Text,
    text = timeLow ++ '-' :: (timeMid ++ '-' :: ('4' :: timeHi ++ '-' :: (clockSeq ++ '-' :: node))) ∧
      timeLow.length = 8 ∧ timeMid.length = 4 ∧ timeHi.length = 3 ∧ clockSeq.length = 4 ∧ node.length = 12 ∧
      (∀ c ∈ clockSeq.head?, c ∈ "89ab".toList) ∧
      ∀ c ∈ timeLow ++ timeMid ++ timeHi ++ clockSeq ++ node, IsHex c

theorem toNat_low (a : UInt64) : (a &&& 0xFFFFFFFF).toNat = a.toNat % 2 ^ 32 := by
  rw [UInt64.toNat_and]
  exact Nat.and_two_pow_sub_one_eq_mod a.toNat 32

theorem toNat_mid (a : UInt64) : ((a >>> 32) &&& 0xFFFF).toNat = a.toNat / 2 ^ 32 % 2 ^ 16 := by
  rw [UInt64.toNat_and, UInt64.toNat_shiftRight, Nat.shiftRight_eq_div_pow]
  exact Nat.and_two_pow_sub_one_eq_mod _ 16

theorem toNat_hi (a : UInt64) :
    (((a >>> 48) &&& 0x0FFF) ||| 0x4000).toNat = 0x4000 + a.toNat / 2 ^ 48 % 2 ^ 12 := by
  rw [UInt64.toNat_or, UInt64.toNat_and, UInt64.toNat_shiftRight, Nat.shiftRight_eq_div_pow, Nat.or_comm]
  have hmask : a.toNat / 2 ^ 48 &&& 0x0FFF = a.toNat / 2 ^ 48 % 2 ^ 12 := Nat.and_two_pow_sub_one_eq_mod _ 12
  have hlt : a.toNat / 2 ^ 48 % 2 ^ 12 < 2 ^ 14 := by omega
  have hor := Nat.two_pow_add_eq_or_of_lt hlt 1
  rw [Nat.mul_one] at hor
  exact (congrArg (0x4000 ||| ·) hmask).trans hor.symm

theorem toNat_clock (b : UInt64) :
    (((b >>> 48) &&& 0x3FFF) ||| 0x8000).toNat = 0x8000 + b.toNat / 2 ^ 48 % 2 ^ 14 := by
  rw [UInt64.toNat_or, UInt64.toNat_and, UInt64.toNat_shiftRight, Nat.shiftRight_eq_div_pow, Nat.or_comm]
  have hmask : b.toNat / 2 ^ 48 &&& 0x3FFF = b.toNat / 2 ^ 48 % 2 ^ 14 := Nat.and_two_pow_sub_one_eq_mod _ 14
  have hlt : b.toNat / 2 ^ 48 % 2 ^ 14 < 2 ^ 15 := by omega
  have hor := Nat.two_pow_add_eq_or_of_lt hlt 1
  rw [Nat.mul_one] at hor
  exact (congrArg (0x8000 ||| ·) hmask).trans hor.symm

theorem toNat_node (b : UInt64) : (b &&& 0xFFFFFFFFFFFF).toNat = b.toNat % 2 ^ 48 := by
  rw [UInt64.toNat_and]
  exact Nat.and_two_pow_sub_one_eq_mod b.toNat 48

theorem makeUuidV4_eq (a b : UInt64) : makeUuidV4 a b =
    hex 8 (a.toNat % 2 ^ 32) ++ '-' :: (hex 4 (a.toNat / 2 ^ 32 % 2 ^ 16) ++ '-' ::
      (hex 4 (0x4000 + a.toNat / 2 ^ 48 % 2 ^ 12) ++ '-' ::
        (hex 4 (0x8000 + b.toNat / 2 ^ 48 % 2 ^ 14) ++ '-' :: hex 12 (b.toNat % 2 ^ 48)))) := by
  unfold makeUuidV4
  dsimp only
  rw [toNat_low, toNat_mid, toNat_hi, toNat_clock, toNat_node]

theorem hex_four {n : Nat} (hn : n < 16 ^ 4) : hex 4 n =
    [(n / 4096).digitChar, (n / 256 % 16).digitChar, (n / 16 % 16).digitChar, (n % 16).digitChar] := by
  have hlead : n / 16 / 16 / 16 < 16 := by omega
  rw [Numeral.hex_succ (by decide), Numeral.hex_succ (by decide), Numeral.hex_succ (by decide), Numeral.hex_one hlead]
  simp only [Nat.div_div_eq_div_mul, List.cons_append, List.nil_append]

theorem version_digit {n : Nat} (hn : n < 2 ^ 12) : ∃ rest, hex 4 (0x4000 + n) = '4' :: rest ∧ rest.length = 3 := by
  have hversion : (0x4000 + n) / 4096 = 4 := by omega
  rw [hex_four (by omega), hversion]
  exact ⟨_, rfl, rfl⟩

theorem variant_digit {n : Nat} (hn : n < 2 ^ 14) : ∀ c ∈ (hex 4 (0x8000 + n)).head?, c ∈ "89ab".toList := by
  rw [hex_four (by omega)]
  intro c hc
  obtain rfl := Option.mem_some_iff.1 hc
  have hlead : (0x8000 + n) / 4096 = 8 + n / 4096 := by omega
  have hvariant : ∀ d : Fin 4, (8 + d.val).digitChar ∈ "89ab".toList := by decide
  rw [hlead]
  exact hvariant ⟨n / 4096, by omega⟩

/-- **Every id of the Kafka client is a random UUID**, whatever was drawn. -/
theorem isUuidV4_makeUuidV4 (a b : UInt64) : IsUuidV4 (makeUuidV4 a b) := by
  obtain ⟨timeHi, hhi, hlength⟩ := version_digit (n := a.toNat / 2 ^ 48 % 2 ^ 12) (by omega)
  refine ⟨hex 8 (a.toNat % 2 ^ 32), hex 4 (a.toNat / 2 ^ 32 % 2 ^ 16), timeHi, hex 4 (0x8000 + b.toNat / 2 ^ 48 % 2 ^ 14),
    hex 12 (b.toNat % 2 ^ 48), ?_, ?_, ?_, hlength, ?_, ?_, variant_digit (by omega), ?_⟩
  · rw [makeUuidV4_eq, hhi]
  · exact Numeral.length_hex (by decide) (by omega)
  · exact Numeral.length_hex (by decide) (by omega)
  · exact Numeral.length_hex (by decide) (by omega)
  · exact Numeral.length_hex (by decide) (by omega)
  · intro c hc
    have hin : c ∈ timeHi → IsHex c := fun hc => by
      have hm : c ∈ hex 4 (0x4000 + a.toNat / 2 ^ 48 % 2 ^ 12) := by
        rw [hhi]
        exact List.mem_cons_of_mem _ hc
      exact Numeral.isHex_of_mem_hex hm
    simp only [List.mem_append] at hc
    rcases hc with (((hc | hc) | hc) | hc) | hc
    · exact Numeral.isHex_of_mem_hex hc
    · exact Numeral.isHex_of_mem_hex hc
    · exact hin hc
    · exact Numeral.isHex_of_mem_hex hc
    · exact Numeral.isHex_of_mem_hex hc

theorem append_dash_inj {s s' t t' : Text} (hlength : s.length = s'.length) (h : s ++ '-' :: t = s' ++ '-' :: t') :
    s = s' ∧ t = t' := by
  obtain ⟨hs, ht⟩ := List.append_inj h hlength
  exact ⟨hs, (List.cons.inj ht).2⟩

/-- **An id tells 122 bits of what was drawn**: all but the four that give way to the version and the two that give way to
the variant. -/
theorem makeUuidV4_inj {a b a' b' : UInt64} : makeUuidV4 a b = makeUuidV4 a' b' ↔
    a.toNat % 2 ^ 60 = a'.toNat % 2 ^ 60 ∧ b.toNat % 2 ^ 62 = b'.toNat % 2 ^ 62 := by
  have hlength : ∀ {width n m : Nat}, 0 < width → n < 16 ^ width → m < 16 ^ width →
      (hex width n).length = (hex width m).length := fun hw hn hm => by
    rw [Numeral.length_hex hw hn, Numeral.length_hex hw hm]
  rw [makeUuidV4_eq, makeUuidV4_eq]
  constructor
  · intro h
    obtain ⟨hlow, h⟩ := append_dash_inj (hlength (by decide) (by omega) (by omega)) h
    obtain ⟨hmid, h⟩ := append_dash_inj (hlength (by decide) (by omega) (by omega)) h
    obtain ⟨hhi, h⟩ := append_dash_inj (hlength (by decide) (by omega) (by omega)) h
    obtain ⟨hclock, hnode⟩ := append_dash_inj (hlength (by decide) (by omega) (by omega)) h
    have hlow := Numeral.hex_injective 8 hlow
    have hmid := Numeral.hex_injective 4 hmid
    have hhi := Numeral.hex_injective 4 hhi
    have hclock := Numeral.hex_injective 4 hclock
    have hnode := Numeral.hex_injective 12 hnode
    omega
  · rintro ⟨ha, hb⟩
    have hlow : a.toNat % 2 ^ 32 = a'.toNat % 2 ^ 32 := by omega
    have hmid : a.toNat / 2 ^ 32 % 2 ^ 16 = a'.toNat / 2 ^ 32 % 2 ^ 16 := by omega
    have hhi : a.toNat / 2 ^ 48 % 2 ^ 12 = a'.toNat / 2 ^ 48 % 2 ^ 12 := by omega
    have hclock : b.toNat / 2 ^ 48 % 2 ^ 14 = b'.toNat / 2 ^ 48 % 2 ^ 14 := by omega
    have hnode : b.toNat % 2 ^ 48 = b'.toNat % 2 ^ 48 := by omega
    rw [hlow, hmid, hhi, hclock, hnode]

/-- **What the random ids say**: 32 digits that tell both words, and the text of a random UUID that tells 122 bits. -/
theorem randomId_text (a b : UInt64) :
    (newCorrelationId a b).length = 32 ∧ (∀ c ∈ newCorrelationId a b, IsHex c) ∧ IsUuidV4 (makeUuidV4 a b) ∧
      ∀ a' b', (newCorrelationId a b = newCorrelationId a' b' ↔ a = a' ∧ b = b') ∧
        (makeUuidV4 a b = makeUuidV4 a' b' ↔
          a.toNat % 2 ^ 60 = a'.toNat % 2 ^ 60 ∧ b.toNat % 2 ^ 62 = b'.toNat % 2 ^ 62) :=
  ⟨length_newCorrelationId a b, fun _ => isHex_newCorrelationId, isUuidV4_makeUuidV4 a b,
    fun _ _ => ⟨newCorrelationId_inj, makeUuidV4_inj⟩⟩

/-! ## A shared counter -/

/-- What `BuildCorrelationId` reads of its thread: `this_thread::get_id()` as it is written, and the clock. -/
structure Reading where
  threadId : Text
  now : Int

/-- The text of an id, from the counter as `fetch_add` has read it. -/
def counted (head : Text) (reading : Reading) (sequence : UInt64) : Text :=
  head ++ reading.threadId ++ '-' :: signed reading.now ++ '-' :: decimal sequence.toNat

def RabbitMq.buildCorrelationId : Reading → UInt64 → Text := counted []

def ServiceBus.buildCorrelationId : Reading → UInt64 → Text := counted "graftcode-".toList

section FetchAdd

variable {Label Id : Type}

/-- `fetch_add(1)` on a counter that all threads share, and what one of them makes of the value. -/
def fetchAdd (build : Label → UInt64 → Id) (counter : UInt64) (label : Label) : Option (UInt64 × Id) :=
  some (counter + 1, build label counter)

variable {build : Label → UInt64 → Id}

theorem run_fetchAdd {labels : List Label} {counter final : UInt64} {ids : List Id}
    (h : Machine.run (fetchAdd build) counter labels = some (final, ids)) :
    ids = labels.mapIdx fun i label => build label (counter + UInt64.ofNat i) := by
  induction labels generalizing counter ids with
  | nil =>
    cases h
    rfl
  | cons label labels ih =>
    obtain ⟨next, id, rest, hs, hr, rfl⟩ := Machine.run_cons.1 h
    simp only [fetchAdd, Option.some.injEq, Prod.mk.injEq] at hs
    obtain ⟨rfl, rfl⟩ := hs
    have hfirst : counter + UInt64.ofNat 0 = counter := UInt64.add_zero counter
    have hlater : ∀ i, counter + 1 + UInt64.ofNat i = counter + UInt64.ofNat (i + 1) := fun i => by
      rw [UInt64.ofNat_add, UInt64.add_comm (UInt64.ofNat i), ← UInt64.add_assoc]
      rfl
    rw [ih hr, List.mapIdx_cons, hfirst]
    simp only [hlater]

theorem exists_run_fetchAdd (labels : List Label) : ∀ counter : UInt64,
    ∃ final ids, Machine.run (fetchAdd build) counter labels = some (final, ids) := by
  induction labels with
  | nil => exact fun counter => ⟨counter, [], rfl⟩
  | cons label labels ih =>
    intro counter
    obtain ⟨final, ids, hr⟩ := ih (counter + 1)
    exact ⟨final, _, Machine.run_cons.2 ⟨_, _, ids, rfl, hr, rfl⟩⟩

/-- No two of `n` draws get one id, whoever draws and from wherever the counter starts. -/
def Distinct (build : Label → UInt64 → Id) (n : Nat) : Prop :=
  ∀ counter labels final ids, labels.length = n →
    Machine.run (fetchAdd build) counter labels = some (final, ids) → ids.Nodup

/-- **An id that tells its sequence number is drawn once until the counter wraps**, and no longer. -/
theorem distinct_iff [Nonempty Label] (hbuild : ∀ l l' n n', build l n = build l' n' → n = n') (n : Nat) :
    Distinct build n ↔ n ≤ 2 ^ 64 := by
  constructor
  · intro h
    by_contra hn
    obtain ⟨label⟩ := ‹Nonempty Label›
    obtain ⟨final, ids, hr⟩ : ∃ final ids,
        Machine.run (fetchAdd build) 0 (List.replicate n label) = some (final, ids) := exists_run_fetchAdd _ 0
    have hnodup := h 0 _ final ids List.length_replicate hr
    have hids := run_fetchAdd hr
    have hlength : ids.length = n := by rw [hids, List.length_mapIdx, List.length_replicate]
    -- the draw after a whole turn of the counter repeats the first one
    have hat : ∀ i (hi : i < ids.length), ids[i] = build label (0 + UInt64.ofNat i) := by
      intro i hi
      simp only [hids, List.getElem_mapIdx, List.getElem_replicate]
    have hwrap : (UInt64.ofNat (2 ^ 64)) = UInt64.ofNat 0 := by rfl
    have hfirst : 0 < ids.length := by omega
    have hlast : 2 ^ 64 < ids.length := by omega
    have heq : ids[0] = ids[2 ^ 64] := by rw [hat, hat, hwrap]
    have hzero : 0 = 2 ^ 64 := (List.Nodup.getElem_inj_iff hnodup).1 heq
    exact absurd hzero (by decide)
  · intro hn counter labels final ids hlength hr
    rw [run_fetchAdd hr]
    rw [List.Nodup, List.pairwise_iff_getElem]
    intro i j hi hj hij heq
    simp only [List.getElem_mapIdx] at heq
    have hword := hbuild _ _ _ _ heq
    have hofNat : UInt64.ofNat i = UInt64.ofNat j := (UInt64.add_right_inj counter).1 hword
    rw [List.length_mapIdx, hlength] at hi hj
    have hmod : i % 2 ^ 64 = j % 2 ^ 64 := by
      have := congrArg UInt64.toNat hofNat
      simpa using this
    rw [Nat.mod_eq_of_lt (by omega), Nat.mod_eq_of_lt (by omega)] at hmod
    omega

/-- What was drawn along a trace is what its one counter, which starts at zero, gave out. -/
def Counted {X : Type} (build : Label → UInt64 → Id) (drawn : X → Option (Label × UInt64)) (t : List X) : Prop :=
  ∃ final, Machine.run (fetchAdd build) 0 ((t.filterMap drawn).map Prod.fst) =
    some (final, (t.filterMap drawn).map fun d => build d.1 d.2)

theorem eq_of_nodup_filterMap {X Y : Type} {f : X → Option Y} {t : List X} (ht : (t.filterMap f).Nodup) {x y : X} {b : Y}
    (hx : x ∈ t) (hy : y ∈ t) (hfx : f x = some b) (hfy : f y = some b) : x = y := by
  obtain ⟨before, after, rfl⟩ := List.append_of_mem hx
  rw [List.filterMap_append, List.filterMap_cons_some hfx, List.nodup_append'] at ht
  obtain ⟨-, hnodup, hdisjoint⟩ := ht
  rcases List.mem_append.1 hy with hm | hm
  · exact absurd List.mem_cons_self (hdisjoint (List.mem_filterMap.2 ⟨y, hm, hfy⟩))
  rcases List.mem_cons.1 hm with rfl | hm
  · rfl
  · exact absurd (List.mem_filterMap.2 ⟨y, hm, hfy⟩) (List.nodup_cons.1 hnodup).1

/-- **An id is drawn once**, by whoever draws it, until the counter wraps. -/
theorem Counted.once {X : Type} {drawn : X → Option (Label × UInt64)} {t : List X} (hc : Counted build drawn t)
    (hbuild : ∀ l l' n n', build l n = build l' n' → n = n') (hbound : (t.filterMap drawn).length ≤ 2 ^ 64) {x y : X}
    {d d' : Label × UInt64} (hx : x ∈ t) (hy : y ∈ t) (hdx : drawn x = some d) (hdy : drawn y = some d')
    (heq : build d.1 d.2 = build d'.1 d'.2) : x = y := by
  obtain ⟨final, hr⟩ := hc
  have hne : Nonempty Label := ⟨d.1⟩
  have hnodup := (distinct_iff hbuild _).2 hbound 0 _ final _ (by simp) hr
  rw [List.map_filterMap] at hnodup
  refine eq_of_nodup_filterMap hnodup hx hy (b := build d.1 d.2) ?_ ?_
  · rw [hdx]
    rfl
  · rw [hdy, heq]
    rfl

end FetchAdd

instance : Nonempty Reading := ⟨⟨[], 0⟩⟩

theorem counted_sequence (head : Text) (reading reading' : Reading) (n n' : UInt64)
    (h : counted head reading n = counted head reading' n') : n = n' :=
  UInt64.toNat_inj.1 (Numeral.decimal_after_dash h).2

/-- **The ids of a process are distinct until its counter wraps**: whatever threads draw them in whatever order, and
whatever the clock says; one more draw can repeat one. -/
theorem buildCorrelationId_distinct_iff (n : Nat) :
    (Distinct RabbitMq.buildCorrelationId n ↔ n ≤ 2 ^ 64) ∧ (Distinct ServiceBus.buildCorrelationId n ↔ n ≤ 2 ^ 64) :=
  ⟨distinct_iff (counted_sequence _) n, distinct_iff (counted_sequence _) n⟩

end Graftcode
