import EspIdfMatter.Nimble.Interleaving
import EspIdfMatter.Nimble.Isolation

/-! The tasks of the NimBLE peripheral, with whether its pumps wait. A hook changes the state first and
raises its signals after: what it gives a pump to do, it owes the pump a signal for. -/

namespace EspIdfMatter.Nimble

open Library Library.Machine

variable {β : Type}

/-! ### Tasks that wait -/

/-- The engine was asked for a frame, and had none. -/
def Call.vain : Call → Bool
  | .btp (.processOutgoing _ (.ok frame)) => frame.isEmpty
  | _ => false

/-- The peripheral, with whether its pumps wait, and the generation on whose behalf the last iteration of
the outgoing pump asked the engine in vain, if it did. -/
structure Tasks (β : Type) where
  system : System β
  incomingWaits : Bool
  outgoingWaits : Bool
  asked : Option Usize

def Tasks.fresh (c : Context) (c2ValHandle : Handle) (btp : β) : Tasks β where
  system := .fresh c c2ValHandle btp
  incomingWaits := false
  outgoingWaits := false
  asked := none

def Stage.atStart : Stage → Bool
  | .start => true
  | _ => false

/-- The pump is about to call `driver.indicate`, or in it. -/
def Stage.calling : Stage → Bool
  | .send _ _ _ | .indicating _ _ => true
  | _ => false

/-- The outgoing pump is at the start of its loop, and `run` goes on. -/
def System.looped (S : System β) : Bool := S.pump.atStart && S.world.ended.isNone

inductive Move (β : Type) where
  | act (action : Action β)
  /-- the incoming pump consumes its signal -/
  | wakeIncoming
  /-- the outgoing pump consumes its signal -/
  | wakeOutgoing
  /-- `btp.wait_outgoing()` resolves -/
  | outgoingData

namespace Tasks

def world (T : Tasks β) : World β := T.system.world

/-- A pump waits after an iteration that has not processed anything. -/
def act (E : Btp β) (T : Tasks β) (action : Action β) : Tasks β :=
  let next := Nimble.act E T.system action
  match action with
  | .incoming =>
      { T with system := next, incomingWaits := (processIncoming E T.world).processed.waits }
  | .pump d =>
      let calls := (T.system.pump.advance E d T.system.submitted T.world).calls
      if T.system.pump.atStart = true then
        { T with system := next, asked := none }
      else
        { T with
          system := next
          outgoingWaits := next.looped
          asked := if calls.any Call.vain = true then some T.world.state.connGen else T.asked }
  | _ => { T with system := next }

def move (E : Btp β) (T : Tasks β) : Move β → Tasks β
  | .act action => T.act E action
  | .wakeIncoming =>
      { T with
        system.world.context.notifyProcessIncoming := false
        incomingWaits := false }
  | .wakeOutgoing =>
      { T with
        system.world.context.notifyProcessOutgoing := false
        outgoingWaits := false }
  | .outgoingData => { T with outgoingWaits := false }

def step (E : Btp β) (T : Tasks β) (m : Move β) : Tasks β × List Empty := (T.move E m, [])

end Tasks

/-- A `C1` write fits and is read, and attribute handles are not zero. -/
def Event.Valid : Event → Prop
  | .gatts (.write _ _ data) => data.CopiesExactly
  | .gatts (.register (.characteristic uuid valHandle)) => uuid = .c2 → valHandle ≠ 0
  | .gatts (.subscriptionChanged _ attrHandle _) => attrHandle ≠ 0
  | _ => True

/-- When a move may be made. The hooks may be entered in any order, one at a time. -/
def Scheduled (T : Tasks β) : Move β → Prop
  | .act (.deliver event _) => T.system.host.Idle ∧ event.Valid
  | .act .host => ¬ T.system.host.Idle ∧ (T.system.host.Locks → T.system.pump.Outside)
  | .act (.pump _) => T.outgoingWaits = false ∧ ∀ id nested, T.system.pump ≠ .indicating id nested
  | .act (.reenter _ _ _ _ _) => ∃ id nested, T.system.pump = .indicating id nested ∧ nested.Idle
  | .act .nested => ∃ id nested, T.system.pump = .indicating id nested ∧ ¬ nested.Idle
  | .act (.indicated _) => ∃ id nested, T.system.pump = .indicating id nested ∧ nested.Idle
  | .act .incoming => T.incomingWaits = false ∧ T.world.ended = none ∧ T.system.pump.Outside
  | .act (.matter _) => True
  | .wakeIncoming => T.incomingWaits = true ∧ T.world.context.notifyProcessIncoming = true
  | .wakeOutgoing => T.outgoingWaits = true ∧ T.world.context.notifyProcessOutgoing = true
  | .outgoingData => T.outgoingWaits = true

/-! ### Nothing to do -/

def State.subscribed (s : State) : Bool := s.connection.any fun conn => conn.subscribed

/-- There is no connection, or its session is synced and there is no incoming data. -/
def State.IncomingIdle (s : State) : Prop :=
  s.connection = none ∨ s.btpGen = some s.connGen ∧ s.inData.isEmpty = true

/-- The last indication submitted still awaits its completion. -/
def System.Unacknowledged (S : System β) : Prop := ∃ id ∈ S.awaiting, S.submitted = id + 1

/-- There is no advertising to be done and, for the flag `nack`, nothing to be sent, or the engine had
nothing to send. -/
def Tasks.OutgoingIdle (T : Tasks β) (nack : Prop) : Prop :=
  T.world.state.needAdvertise = false ∧
    (T.world.state.subscribed = false ∨ nack ∨ T.asked = some T.world.state.connGen)

/-! ### What a hook owes -/

def Hook.WakesIncoming : Hook → Prop
  | .signalIncoming _ => True
  | .storeNack _ next | .signalOutgoing next => next.WakesIncoming
  | _ => False

def Hook.WakesOutgoing : Hook → Prop
  | .signalOutgoing _ => True
  | .storeNack _ next | .signalIncoming next => next.WakesOutgoing
  | _ => False

/-- What a section under the state lock gives a pump to do, the rest of the hook wakes it for. Only a
subscription to a registered characteristic is taken. -/
structure Announced (c2ValHandle : Handle) (s s' : State) (rest : Hook) : Prop where
  incoming : s.IncomingIdle → rest.WakesIncoming ∨ s'.IncomingIdle
  advertise : s'.needAdvertise = true → rest.WakesOutgoing ∨ s.needAdvertise = true
  subscribed : s'.subscribed = true →
    rest.WakesOutgoing ∨ s.subscribed = true ∧ s'.connGen = s.connGen
  registered : s'.subscribed = true → s.subscribed = true ∨ c2ValHandle ≠ 0

/-- A hook that wakes the pumps for all it gives them to do, with the handle of `C2` and whether the peer
is subscribed when it goes on. -/
def Hook.Fair : Hook → Handle → Bool → Prop
  | .ret _, _, _ => True
  | .lock update next, c2, _ =>
      ∀ s, Announced c2 s (update s) (next s) ∧ (next s).Fair c2 (update s).subscribed
  | .storeNack value next, c2, subscribed =>
      value = false ∧ (next.WakesOutgoing ∨ subscribed = false) ∧ next.Fair c2 subscribed
  | .storeC2 handle next, _, subscribed => handle ≠ 0 ∧ next.Fair handle subscribed
  | .loadC2 next, c2, subscribed => (next c2).Fair c2 subscribed
  | .signalIncoming next, c2, subscribed => next.Fair c2 subscribed
  | .signalOutgoing next, c2, subscribed => next.Fair c2 subscribed

/-! ### The hooks are fair -/

theorem setMtu_subscribed (s : State) (connHandle : Handle) (value : UInt16) :
    (s.setMtu connHandle value).subscribed = s.subscribed := by
  unfold State.setMtu State.modifyConn
  split
  · rename_i conn hconn
    split
    · simp [State.subscribed, hconn]
    · rfl
  · rfl

theorem announced_modifyConn (c2ValHandle : Handle) (s : State) (connHandle : Handle)
    (f : Connection → Connection) {rest : Hook}
    (hsubscribed : (s.modifyConn connHandle f).subscribed = true →
      rest.WakesOutgoing ∧ c2ValHandle ≠ 0 ∨ s.subscribed = true) :
    Announced c2ValHandle s (s.modifyConn connHandle f) rest := by
  obtain ⟨connection, hmodify, hsome⟩ := s.modifyConn_eq connHandle f
  rw [hmodify] at hsubscribed ⊢
  refine ⟨fun hidle => .inr (hidle.imp_left fun hnone => ?_), .inr, fun h => ?_, fun h => ?_⟩
  · rw [hnone] at hsome
    exact Option.not_isSome_iff_eq_none.mp (Bool.eq_false_iff.mp hsome)
  · exact (hsubscribed h).imp And.left fun hsub => ⟨hsub, rfl⟩
  · exact (hsubscribed h).symm.imp_right And.right

theorem fair_requestAdvertise (c2ValHandle : Handle) (subscribed : Bool) :
    (Hook.lock State.requestAdvertise fun _ => .signalOutgoing <| .ret 0).Fair c2ValHandle subscribed :=
  fun _ => ⟨⟨.inr, fun _ => .inl trivial, fun h => .inr ⟨h, rfl⟩, .inl⟩, trivial⟩

theorem announced_write (c2ValHandle : Handle) {s : State} {data : Mbuf} (hdata : data.CopiesExactly)
    {rest : Hook} (hrest : (s.write data).2 = .ok () → rest.WakesIncoming) :
    Announced c2ValHandle s (s.write data).1 rest := by
  obtain ⟨inData, hwrite⟩ := s.write_fst data
  refine ⟨fun hidle => ?_, fun h => .inr ?_, fun h => .inr ?_, fun h => .inl ?_⟩
  · cases hroom : s.inData.isEmpty with
    | false =>
        rw [State.write_of_occupied data hroom]
        exact .inr hidle
    | true =>
        apply Or.inl (hrest _)
        rw [State.write_of_copiesExactly hroom hdata]
  · rwa [hwrite] at h
  · rw [hwrite] at h ⊢
    exact ⟨h, rfl⟩
  · rwa [hwrite] at h

theorem fair_hook {event : Event} (hvalid : event.Valid) (c2ValHandle : Handle) (subscribed : Bool) :
    (hook event).Fair c2ValHandle subscribed := by
  cases event with
  | host event =>
      cases event with
      | sync => exact fair_requestAdvertise c2ValHandle subscribed
      | other => trivial
  | gap event =>
      cases event with
      | connect connHandle status found attMtu =>
          cases status with
          | error e => exact fair_requestAdvertise c2ValHandle subscribed
          | ok u =>
              intro s
              -- The new peer is not subscribed, so clearing the flag gives the outgoing pump nothing to do.
              exact ⟨⟨fun _ => .inl trivial, .inr, nofun, nofun⟩, rfl, .inr rfl, trivial⟩
      | disconnect connHandle reason =>
          intro s
          exact ⟨⟨fun _ => .inl trivial, fun _ => .inl trivial, nofun, nofun⟩, rfl, .inl trivial, trivial⟩
      | mtu connHandle value =>
          intro s
          refine ⟨announced_modifyConn c2ValHandle s connHandle _ fun h => .inr ?_, trivial⟩
          exact (setMtu_subscribed s connHandle value).symm.trans h
      | other => trivial
  | gatts event =>
      cases event with
      | register reg =>
          cases reg with
          | characteristic uuid valHandle =>
              simp only [hook, gattsHook]
              split
              · rename_i huuid
                exact ⟨hvalid huuid, trivial⟩
              · trivial
          | other => trivial
      | write connHandle attrHandle data =>
          intro s
          dsimp only
          refine ⟨announced_write c2ValHandle hvalid fun hok => ?_, ?_⟩
          · rw [hok]
            trivial
          · cases (s.write data).2 <;> trivial
      | read connHandle attrHandle => trivial
      | subscriptionChanged connHandle attrHandle curIndicate =>
          simp only [hook, gattsHook, Hook.Fair]
          split
          · rename_i hattr
            intro s
            refine ⟨announced_modifyConn c2ValHandle s connHandle _ fun _ => .inl ?_, trivial⟩
            exact ⟨trivial, hattr ▸ hvalid⟩
          · trivial
      | notifyComplete connHandle attrHandle indication status =>
          simp only [hook, gattsHook]
          split
          · exact ⟨rfl, .inl trivial, trivial⟩
          · trivial

/-! ### One step of a hook -/

/-- The hook is about to clear the flag. -/
def Hook.Clears : Hook → Prop
  | .storeNack value _ => value = false
  | .lock _ next => ∀ s, (next s).Clears
  | .signalIncoming next | .signalOutgoing next => next.Clears
  | _ => False

/-- What a step of a hook means to the pumps. -/
structure Stepped (h : Hook) (w : World β) (h' : Hook) (w' : World β) : Prop where
  fair : h'.Fair w'.c2ValHandle w'.state.subscribed
  registered : (w.state.subscribed = true → w.c2ValHandle ≠ 0) →
    w'.state.subscribed = true → w'.c2ValHandle ≠ 0
  wokenIncoming : w.context.notifyProcessIncoming = true ∨ h.WakesIncoming →
    w'.context.notifyProcessIncoming = true ∨ h'.WakesIncoming
  wokenOutgoing : w.context.notifyProcessOutgoing = true ∨ h.WakesOutgoing →
    w'.context.notifyProcessOutgoing = true ∨ h'.WakesOutgoing
  incoming : w.state.IncomingIdle → h'.WakesIncoming ∨ w'.state.IncomingIdle
  advertise : w'.state.needAdvertise = true → h'.WakesOutgoing ∨ w.state.needAdvertise = true
  subscribed : w'.state.subscribed = true →
    h'.WakesOutgoing ∨ w.state.subscribed = true ∧ w'.state.connGen = w.state.connGen
  acknowledged : w.outNack = true →
    h'.WakesOutgoing ∨ w'.state.subscribed = false ∨ w'.outNack = true
  cleared : w'.outNack = true → w.outNack = true ∧ (h.Clears → h'.Clears)
  state : ¬ h.Locks → w'.state = w.state

theorem stepped_atom {h : Hook} {w : World β} (hfair : h.Fair w.c2ValHandle w.state.subscribed) :
    Stepped h w (h.atom w).1 (h.atom w).2 := by
  have hkeep : w.state.subscribed = true → w.state.subscribed = true ∧ w.state.connGen = w.state.connGen :=
    fun h => ⟨h, rfl⟩
  cases h with
  | ret code =>
      exact ⟨hfair, id, id, id, .inr, .inr, fun h => .inr (hkeep h), fun h => .inr (.inr h),
        fun h => ⟨h, id⟩, fun _ => rfl⟩
  | lock update next =>
      obtain ⟨hsection, hrest⟩ := hfair w.state
      refine ⟨hrest, fun hreg hsub => ?_, fun h => ?_, fun h => ?_, hsection.incoming, hsection.advertise,
        hsection.subscribed, fun h => .inr (.inr h), fun h => ⟨h, fun hclears => hclears _⟩,
        fun hno => absurd trivial hno⟩
      · exact (hsection.registered hsub).elim hreg id
      · exact .inl (h.resolve_right id)
      · exact .inl (h.resolve_right id)
  | storeNack value next =>
      obtain ⟨rfl, hwakes, hrest⟩ := hfair
      exact ⟨hrest, id, id, id, .inr, .inr, fun h => .inr (hkeep h), fun _ => hwakes.imp_right .inl,
        nofun, fun _ => rfl⟩
  | storeC2 handle next =>
      exact ⟨hfair.2, fun _ _ => hfair.1, fun h => .inl (h.resolve_right id),
        fun h => .inl (h.resolve_right id), .inr, .inr, fun h => .inr (hkeep h),
        fun h => .inr (.inr h), fun h => ⟨h, False.elim⟩, fun _ => rfl⟩
  | loadC2 next =>
      exact ⟨hfair, id, fun h => .inl (h.resolve_right id), fun h => .inl (h.resolve_right id), .inr, .inr,
        fun h => .inr (hkeep h), fun h => .inr (.inr h), fun h => ⟨h, False.elim⟩, fun _ => rfl⟩
  | signalIncoming next =>
      exact ⟨hfair, id, fun _ => .inl rfl, id, .inr, .inr, fun h => .inr (hkeep h),
        fun h => .inr (.inr h), fun h => ⟨h, id⟩, fun _ => rfl⟩
  | signalOutgoing next =>
      exact ⟨hfair, id, id, fun _ => .inl rfl, .inr, .inr, fun h => .inr (hkeep h),
        fun h => .inr (.inr h), fun h => ⟨h, id⟩, fun _ => rfl⟩

/-- What is left of the hook for a completion. -/
def Hook.Completes : Hook → Prop
  | .ret _ => True
  | .storeNack value next => value = false ∧ next.Completes
  | .signalOutgoing next => next.Completes
  | _ => False

theorem completes_hook (conn attr : Handle) (indication : Bool) (status : Int) :
    (hook (.gatts (.notifyComplete conn attr indication status))).Completes := by
  simp only [hook, gattsHook]
  split
  · exact ⟨rfl, trivial⟩
  · trivial

/-- A step of it touches the flag and the signal of the outgoing pump only. -/
theorem completes_atom {h : Hook} (hh : h.Completes) (w : World β) :
    (h.atom w).1.Completes ∧ (∃ nack woken, (h.atom w).2 =
      { w with context := { w.context with
          outNack := nack
          notifyProcessOutgoing := woken } } ∧
      (w.context.notifyProcessOutgoing = true → woken = true) ∧
      (nack = true → w.outNack = true ∧ (h.Clears → (h.atom w).1.Clears))) := by
  cases h with
  | ret code => exact ⟨trivial, _, _, rfl, id, fun h => ⟨h, id⟩⟩
  | storeNack value next => exact ⟨hh.2, value, _, rfl, id, fun h => by cases hh.1.symm.trans h⟩
  | signalOutgoing next => exact ⟨hh, _, true, rfl, fun _ => rfl, fun h => ⟨h, id⟩⟩
  | _ => exact hh.elim

end EspIdfMatter.Nimble
