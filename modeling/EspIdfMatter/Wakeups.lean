import EspIdfMatter.Nimble.Wakeups
import EspIdfMatter.Bluedroid.Wakeups

/-! Wake-ups of the pumps of the two GATT peripherals. -/

namespace EspIdfMatter

open Library.Machine

variable {β : Type}

/-- **Neither peripheral loses a wake-up.** After any interleaving of hooks, pumps and signals, when no
hook is under way, a pump that waits without its signal being raised has nothing to do. -/
theorem no_wakeup_lost (E : Btp β) (c : Nimble.Context) (c2ValHandle : Handle) (btp : β)
    (moves : List (Nimble.Move β))
    (hrun : Along (Nimble.Tasks.step E) Nimble.Scheduled (.fresh c c2ValHandle btp) moves)
    (cfg : Bluedroid.Config) (c' : Bluedroid.Context) (btp' : β) (moves' : List (Bluedroid.Move β))
    (hrun' : Along (Bluedroid.Tasks.step cfg E) Bluedroid.Scheduled (.fresh c' btp') moves') :
    ((after (Nimble.Tasks.step E) (.fresh c c2ValHandle btp) moves).system.host.Idle →
      (after (Nimble.Tasks.step E) (.fresh c c2ValHandle btp) moves).MissesNothing) ∧
    ((after (Bluedroid.Tasks.step cfg E) (.fresh c' btp') moves').Quiet →
      (after (Bluedroid.Tasks.step cfg E) (.fresh c' btp') moves').MissesNothing) :=
  ⟨(Nimble.Tasks.inv_run E c c2ValHandle btp hrun).missesNothing,
    (Bluedroid.Tasks.inv_run cfg E c' btp' hrun').missesNothing⟩

/-- A peer connects and subscribes, and both pumps come to wait. -/
def settlingRun : List (Nimble.Move (List Buffer)) :=
  let iterateOutgoing := List.replicate 5 (Nimble.Move.act (.pump .succeeding))
  [.act (.deliver (.gap (.connect 1 (.ok ()) (.ok ⟨.replicate 6 7⟩) (.ok 247))) 0),
      .act .host, .act .host, .act .host,
      .act (.deliver (.gatts (.subscriptionChanged 1 5 true)) 0),
      .act .host, .act .host, .act .host, .act .incoming, .wakeIncoming, .act .incoming] ++
    iterateOutgoing ++ [.wakeOutgoing] ++ iterateOutgoing

/-- The same for a service that is registered first. -/
def settlingRun' : List (Bluedroid.Move (List Buffer)) :=
  [.gatts 3 (.serviceRegistered .ok 0) .succeeding, .gatts 3 (.serviceCreated .ok 1) .succeeding,
    .gatts 3 (.characteristicAdded .ok 2 1 .c1) .succeeding,
    .gatts 3 (.characteristicAdded .ok 4 1 .c2) .succeeding,
    .gatts 3 (.descriptorAdded .ok 5 1 .cccd) .succeeding,
    .gatts 3 (.peerConnected 1 Bluedroid.somePeer) .succeeding, .signalIncoming,
    .gatts 3 (.write Bluedroid.subscribing) .succeeding, .signalIncoming, .signalOutgoing,
    .incoming .succeeding, .wakeIncoming, .incoming .succeeding,
    .outgoing .succeeding, .wakeOutgoing, .outgoing .succeeding]

def settled : Nimble.Tasks (List Buffer) :=
  after (Nimble.Tasks.step .queue) (.fresh .new 5 []) settlingRun

def settled' : Bluedroid.Tasks (List Buffer) :=
  after (Bluedroid.Tasks.step Bluedroid.someConfig .queue) (.fresh .new []) settlingRun'

theorem no_wakeup_lost_settling :
    (settled.world.state.IncomingIdle ∧ settled.OutgoingIdle settled.system.Unacknowledged) ∧
      settled'.world.state.IncomingIdle ∧ settled'.OutgoingIdle (settled'.unacknowledged = true) := by
  have hsettled := no_wakeup_lost .queue .new 5 [] settlingRun ?_ Bluedroid.someConfig .new []
    settlingRun' ?_
  · obtain ⟨hincoming, houtgoing⟩ := hsettled.1 trivial
    obtain ⟨hincoming', houtgoing'⟩ := hsettled.2 ⟨rfl, rfl⟩
    exact ⟨⟨hincoming rfl rfl, houtgoing rfl rfl⟩, hincoming' rfl rfl, houtgoing' rfl rfl⟩
  · have hhandle : (5 : Handle) ≠ 0 := by decide
    exact ⟨⟨trivial, trivial⟩, ⟨id, fun _ => trivial⟩, ⟨id, fun _ => trivial⟩,
      ⟨id, fun _ => trivial⟩, ⟨trivial, hhandle⟩, ⟨id, fun _ => trivial⟩, ⟨id, fun _ => trivial⟩,
      ⟨id, fun _ => trivial⟩, ⟨rfl, rfl, trivial⟩, ⟨rfl, rfl⟩, ⟨rfl, rfl, trivial⟩, ⟨rfl, nofun⟩,
      ⟨rfl, nofun⟩, ⟨rfl, nofun⟩, ⟨rfl, nofun⟩, ⟨rfl, nofun⟩, ⟨rfl, rfl⟩, ⟨rfl, nofun⟩,
      ⟨rfl, nofun⟩, ⟨rfl, nofun⟩, ⟨rfl, nofun⟩, ⟨rfl, nofun⟩, trivial⟩
  · have hquiet : false = false ∧ false = false := ⟨rfl, rfl⟩
    exact ⟨⟨hquiet, trivial⟩, ⟨hquiet, trivial⟩, ⟨hquiet, trivial⟩, ⟨hquiet, trivial⟩,
      ⟨hquiet, fun _ => ⟨nofun, nofun⟩⟩, ⟨hquiet, trivial⟩, rfl, ⟨hquiet, trivial⟩, rfl, rfl,
      ⟨rfl, rfl⟩, ⟨rfl, rfl⟩, ⟨rfl, rfl⟩, ⟨rfl, rfl⟩, ⟨rfl, rfl⟩, ⟨rfl, rfl⟩, trivial⟩

end EspIdfMatter
