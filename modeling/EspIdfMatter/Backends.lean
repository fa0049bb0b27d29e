import EspIdfMatter.Bluedroid.Backend
import EspIdfMatter.Bluedroid.FlowControl
import EspIdfMatter.Nimble.Backend

/-! The two peripherals do the same, whichever Bluetooth host is below them. -/

namespace EspIdfMatter

open Library

variable {β : Type}

/-- **The two backends drive the engine identically**, as long as it makes no difference to the engine
that NimBLE reports an MTU with a connection and Bluedroid does not. -/
theorem backends_alike (cfg : Bluedroid.Config) (E : Btp β) (v : Peripheral.Services)
    (nimble : Nimble.Context) (c2ValHandle : Handle) {bluedroid : Bluedroid.Context} {n : Nat}
    (hused : bluedroid.Used E n) (hbudget : n + 1 < 2 ^ 32) (btp : β) {events : List Peripheral.Event}
    (hwell : Peripheral.Trace Peripheral.WellFormed .down events)
    (hmtu : Peripheral.Trace (Peripheral.Indifferent E) .down events) :
    (Nimble.backend E v).observed (.registered E v nimble c2ValHandle btp) events =
      (Bluedroid.backend cfg E v).observed (.registered cfg E v bluedroid btp) events := by
  have hfresh := (hused.within (Nat.lt_of_succ_lt hbudget)).ne_next hbudget
  rw [Nimble.observed_eq_ideal E v nimble c2ValHandle btp hwell,
    Bluedroid.observed_eq_ideal cfg E v btp hfresh hwell, Peripheral.ideal_upToMtu E v.c2 btp hmtu]

def someServices : Peripheral.Services where
  gattIf := 3
  service := 1
  c1 := 2
  c2 := 4
  cccd := 5
  c1_ne_cccd := by decide
  c2_ne_zero := by decide

/-- A peer that subscribes, writes, and confirms the indication that it gets. -/
def exchanging : List Peripheral.Event :=
  [.connect 1 (.replicate 6 7) (some 247), .indications 10 true, .write 11 [1, 2], .confirm]

theorem backends_alike_exchanging :
    Bluedroid.Context.Used Btp.queue .new 0 ∧
      (Nimble.backend .queue someServices).observed
          (.registered .queue someServices .new 0 [⟨[9], by decide⟩]) exchanging =
        (Bluedroid.backend Bluedroid.someConfig .queue someServices).observed
          (.registered Bluedroid.someConfig .queue someServices .new [⟨[9], by decide⟩])
          exchanging := by
  refine ⟨.new, backends_alike _ _ _ _ _ .new (by decide) _ ?_ ?_⟩
  · exact ⟨rfl, trivial, ⟨by decide, by decide⟩, trivial, trivial⟩
  · have hignores : ∀ mtu, Peripheral.Ignores Btp.queue mtu :=
      fun _ => ⟨fun _ _ _ => rfl, fun _ => rfl⟩
    exact ⟨trivial, fun _ _ => hignores _, fun _ _ => hignores _, fun _ _ => hignores _, trivial⟩

/-- An engine that has one frame to send after a reset, which tells the MTU it was asked with. -/
def Btp.telling : Btp Bool where
  reset := fun _ => true
  processIncoming := fun btp _ _ _ => (btp, .ok ())
  processOutgoing := fun btp mtu =>
    match btp with
    | true => (false, .ok ⟨[(mtu.getD 23).toUInt8], Nat.le_of_ble_eq_true rfl⟩)
    | false => (false, .ok .empty)

/-- Before the first MTU event, the engine is given another MTU and sends another frame. -/
theorem first_mtu_tells_backends_apart :
    (∀ btp mtu, (Btp.telling.processOutgoing btp mtu).2 = .ok .empty →
        (Btp.telling.processOutgoing btp mtu).1 = btp) ∧
      Peripheral.Trace Peripheral.WellFormed .down exchanging ∧
      (Nimble.backend .telling someServices).observed
          (.registered .telling someServices .new 0 true) exchanging ≠
        (Bluedroid.backend Bluedroid.someConfig .telling someServices).observed
          (.registered Bluedroid.someConfig .telling someServices .new true) exchanging := by
  refine ⟨?_, ⟨rfl, trivial, ⟨by decide, by decide⟩, trivial, trivial⟩, by decide +kernel⟩
  intro btp mtu h
  cases btp with
  | false => rfl
  | true =>
      have hlen := congrArg (fun r : Except ErrorCode Buffer => r.map (·.length)) h
      cases hlen

/-- However long they are run, two iterations of each pump are all there is to an event. -/
theorem drained (cfg : Bluedroid.Config) (E : Btp β) (v : Peripheral.Services) (k : Nat) :
    (∀ w, drain (Nimble.backend E v).incoming (k + 2) w = drain (Nimble.backend E v).incoming 2 w) ∧
      (∀ w, drain (Nimble.backend E v).outgoing (k + 2) w = drain (Nimble.backend E v).outgoing 2 w) ∧
      (∀ w, drain (Bluedroid.backend cfg E v).incoming (k + 2) w =
        drain (Bluedroid.backend cfg E v).incoming 2 w) ∧
      ∀ w, drain (Bluedroid.backend cfg E v).outgoing (k + 2) w =
        drain (Bluedroid.backend cfg E v).outgoing 2 w := by
  have hnimble := Nimble.pumps_once E v
  have hbluedroid := Bluedroid.pumps_once cfg E v
  exact ⟨drain_stable hnimble.incoming k, drain_stable hnimble.outgoing k,
    drain_stable hbluedroid.incoming k, drain_stable hbluedroid.outgoing k⟩

end EspIdfMatter
