import EspIdfMatter.Nimble.Pumps

/-! The NimBLE peripheral with its hooks and its outgoing pump interleaved step by step. The host
task runs one hook at a time, the pump its own loop; both share the state lock, but the accesses to
`out_nack` and to `C2_VAL_HANDLE` and the signals happen outside it. While the pump is in
`driver.indicate`, NimBLE may run a completion hook on the pump's task. -/

namespace EspIdfMatter.Nimble

open Library Library.Machine

variable {β : Type}

def Hook.Idle : Hook → Prop
  | .ret _ => True
  | _ => False

def Hook.Locks : Hook → Prop
  | .lock _ _ => True
  | _ => False

/-- Where the outgoing pump is. From `checkNack` on it holds the state lock. -/
inductive Stage where
  | start
  | advertised
  | checkNack (conn : Connection)
  | loadHandle (conn : Connection)
  | produce (conn : Connection) (c2 : Handle)
  | markNack (conn : Connection) (c2 : Handle) (data : Bytes)
  | send (conn : Connection) (c2 : Handle) (data : Bytes)
  /-- in `driver.indicate` for the indication of this number, with what is left of a completion hook
  that it runs -/
  | indicating (id : Nat) (nested : Hook)
  | clearNack

def Stage.Outside : Stage → Prop
  | .start | .advertised => True
  | _ => False

/-- One step of the pump: the world after it, the calls that it made, and where the pump is. -/
structure Advance (β : Type) where
  world : World β
  calls : List Call
  stage : Stage

/-- One step of the pump, up to the call of `driver.indicate`. -/
def Stage.advance (E : Btp β) (d : Driver) (id : Nat) (w : World β) : Stage → Advance β
  | .start =>
      if w.ended = none then
        let advertised := readvertise d w
        ⟨advertised.1, advertised.2, .advertised⟩
      else
        ⟨w, [], .start⟩
  | .advertised =>
      if w.ended = none then
        match w.state.connection with
        | none => ⟨w, [], .start⟩
        | some conn =>
            if conn.subscribed = false then
              ⟨w, [], .start⟩
            else
              let synced := w.syncBtp E
              ⟨synced.1, synced.2, .checkNack conn⟩
      else
        ⟨w, [], .advertised⟩
  | .checkNack conn => if w.outNack = true then ⟨w, [], .start⟩ else ⟨w, [], .loadHandle conn⟩
  | .loadHandle conn =>
      if w.c2ValHandle = 0 then ⟨w, [], .start⟩ else ⟨w, [], .produce conn w.c2ValHandle⟩
  | .produce conn c2 =>
      let buf := w.state.outData.resize maxMtuSize le_rfl
      match E.processOutgoing w.btp conn.mtu with
      | (btp, .error e) =>
          ⟨((w.setState { w.state with outData := buf }).setBtp btp).setEnded (some e),
            [.btp (.processOutgoing conn.mtu (.error e))], .start⟩
      | (btp, .ok frame) =>
          let w := (w.setState { w.state with outData := buf.overwrite frame.toList }).setBtp btp
          let calls := [Call.btp (.processOutgoing conn.mtu (.ok frame.toList))]
          if frame.length = 0 then
            ⟨w, calls, .start⟩
          else
            ⟨w, calls, .markNack conn c2 (w.state.outData.toList.take frame.length)⟩
  | .markNack conn c2 data => ⟨w.setNack true, [], .send conn c2 data⟩
  | .send _ _ _ => ⟨w, [], .indicating id (.ret 0)⟩
  | .indicating id nested => ⟨w, [], .indicating id nested⟩
  | .clearNack => ⟨(w.setNack false).setEnded (some .noNetworkInterface), [], .start⟩

/-- The peripheral, with what its environment keeps track of: whether there is a link, and which of
the indications submitted on it, numbered in order, still await their terminal completion. -/
structure System (β : Type) where
  world : World β
  host : Hook
  pump : Stage
  linked : Bool
  submitted : Nat
  awaiting : List Nat

def System.fresh (c : Context) (c2ValHandle : Handle) (btp : β) : System β where
  world := .fresh c c2ValHandle btp
  host := .ret 0
  pump := .start
  linked := false
  submitted := 0
  awaiting := []

/-- An indication completes for good. -/
def Event.Terminal : Event → Prop
  | .gatts (.notifyComplete _ _ indication status) => indication = true ∧ status ≠ 0
  | _ => False

instance (event : Event) : Decidable event.Terminal := by
  unfold Event.Terminal
  split <;> infer_instance

/-- What an event means for the environment. A terminal completion is that of the indication
`completes`. -/
def System.arrive (S : System β) (event : Event) (completes : Nat) : System β :=
  match event with
  | .gap (.connect _ (.ok _) _ _) => { S with linked := true, awaiting := [] }
  | .gap (.disconnect _ _) => { S with linked := false }
  | event =>
      if event.Terminal then { S with awaiting := S.awaiting.erase completes } else S

/-- One link at a time, and at most one terminal completion for each indication, none after the
disconnection. -/
def System.Admits (S : System β) (event : Event) (completes : Nat) : Prop :=
  match event with
  | .gap (.connect _ (.ok _) _ _) => S.linked = false
  | event => event.Terminal → S.linked = true ∧ completes ∈ S.awaiting

inductive Action (β : Type) where
  /-- the host task enters the hook for an event -/
  | deliver (event : Event) (completes : Nat)
  | host
  | pump (driver : Driver)
  /-- a completion hook is entered from within `driver.indicate` -/
  | reenter (conn attr : Handle) (indication : Bool) (status : Int) (completes : Nat)
  | nested
  /-- `driver.indicate` returns -/
  | indicated (result : Except BleError Unit)
  | incoming
  | matter (btp : β)

/-- Both pumps run on one task, and a section under the state lock waits for the pump to leave its
own. -/
def Enabled (S : System β) : Action β → Prop
  | .deliver event completes => S.host.Idle ∧ S.Admits event completes
  | .host => ¬ S.host.Idle ∧ (S.host.Locks → S.pump.Outside)
  | .pump _ => ∀ id nested, S.pump ≠ .indicating id nested
  | .reenter conn attr indication status completes =>
      (∃ id nested, S.pump = .indicating id nested ∧ nested.Idle) ∧
        S.Admits (.gatts (.notifyComplete conn attr indication status)) completes
  | .nested => ∃ id nested, S.pump = .indicating id nested ∧ ¬ nested.Idle
  | .indicated _ => ∃ id nested, S.pump = .indicating id nested ∧ nested.Idle
  | .incoming => S.pump.Outside
  | .matter _ => True

def act (E : Btp β) (S : System β) : Action β → System β
  | .deliver event completes => { S.arrive event completes with host := hook event }
  | .host =>
      let next := S.host.atom S.world
      { S with host := next.1, world := next.2 }
  | .pump d =>
      let next := S.pump.advance E d S.submitted S.world
      match S.pump with
      | .send _ _ _ =>
          { S with
            world := next.world
            pump := next.stage
            submitted := S.submitted + 1
            awaiting := S.submitted :: S.awaiting }
      | _ => { S with world := next.world, pump := next.stage }
  | .reenter conn attr indication status completes =>
      let event := Event.gatts (.notifyComplete conn attr indication status)
      match S.pump with
      | .indicating id _ => { S.arrive event completes with pump := .indicating id (hook event) }
      | _ => S
  | .nested =>
      match S.pump with
      | .indicating id nested =>
          let next := nested.atom S.world
          { S with pump := .indicating id next.1, world := next.2 }
      | _ => S
  | .indicated result =>
      match S.pump, result with
      | .indicating _ _, .ok () => { S with pump := .start }
      | .indicating id _, .error _ =>
          -- It was not submitted after all.
          { S with pump := .clearNack, awaiting := S.awaiting.erase id }
      | _, _ => S
  | .incoming =>
      { S with world := if S.world.ended = none then (processIncoming E S.world).finish.1 else S.world }
  | .matter btp => { S with world := S.world.setBtp btp }

inductive Reachable (E : Btp β) (S₀ : System β) : System β → Prop where
  | refl : Reachable E S₀ S₀
  | tail {S : System β} (hreach : Reachable E S₀ S) (a : Action β) (ha : Enabled S a) :
      Reachable E S₀ (act E S a)

/-- What holds at the start and is kept by every enabled action holds in every reachable state. -/
theorem Reachable.invariant {E : Btp β} {S₀ S : System β} {I : System β → Prop}
    (hreach : Reachable E S₀ S) (hstart : I S₀)
    (hact : ∀ S a, I S → Enabled S a → I (act E S a)) : I S := by
  induction hreach with
  | refl => exact hstart
  | tail _ a ha ih => exact hact _ a ih ha

theorem Reachable.trans {E : Btp β} {S₀ S S' : System β} (h : Reachable E S₀ S)
    (h' : Reachable E S S') : Reachable E S₀ S' := by
  induction h' with
  | refl => exact h
  | tail _ a ha ih => exact ih.tail a ha

/-- Every one of these actions is enabled when its turn comes. -/
def Allowed (E : Btp β) : System β → List (Action β) → Prop
  | _, [] => True
  | S, a :: actions => Enabled S a ∧ Allowed E (act E S a) actions

theorem Allowed.reachable {E : Btp β} {S : System β} {actions : List (Action β)}
    (h : Allowed E S actions) : Reachable E S (actions.foldl (act E) S) := by
  induction actions generalizing S with
  | nil => exact .refl
  | cons a actions ih => exact (Reachable.refl.tail a h.1).trans (ih h.2)

/-! ### Without interruption

What `step` does in one go is one way for these actions to go. -/

/-- The host task runs a hook to its end. -/
theorem reachable_exec (E : Btp β) {S : System β} (hout : S.pump.Outside) (h : Hook) (w : World β) :
    Reachable E { S with host := h, world := w }
      { S with host := .ret (h.exec w).2, world := (h.exec w).1 } := by
  have hfirst : ∀ {h : Hook} {w : World β}, ¬ h.Idle →
      Reachable E { S with host := h, world := w }
        (act E { S with host := h, world := w } .host) := fun hidle =>
    Reachable.refl.tail .host ⟨hidle, fun _ => hout⟩
  induction h generalizing w with
  | ret code => exact .refl
  | lock update next ih => exact (hfirst id).trans (ih w.state (w.setState (update w.state)))
  | storeNack value next ih => exact (hfirst id).trans (ih (w.setNack value))
  | storeC2 handle next ih => exact (hfirst id).trans (ih (w.setC2 handle))
  | loadC2 next ih => exact (hfirst id).trans (ih w.c2ValHandle w)
  | signalIncoming next ih => exact (hfirst id).trans (ih w.wakeIncoming)
  | signalOutgoing next ih => exact (hfirst id).trans (ih w.wakeOutgoing)

/-- An event is handled while the pump waits. -/
theorem reachable_event (E : Btp β) {S : System β} (hout : S.pump.Outside) (hidle : S.host.Idle)
    (event : Event) (completes : Nat) (hadmits : S.Admits event completes) :
    ∃ S', Reachable E S S' ∧ S'.host.Idle ∧ S'.pump = S.pump ∧
      S'.world = (step E S.world (.event event)).1 := by
  have hworld : (S.arrive event completes).world = S.world ∧
      (S.arrive event completes).pump = S.pump := by
    unfold System.arrive
    repeat' split
    all_goals exact ⟨rfl, rfl⟩
  have hentered := Reachable.refl.tail (E := E) (.deliver event completes) ⟨hidle, hadmits⟩
  have hrun := reachable_exec E (S := S.arrive event completes) (hworld.2 ▸ hout) (hook event) S.world
  rw [← hworld.1] at hrun
  refine ⟨_, hentered.trans hrun, trivial, hworld.2, ?_⟩
  rw [hworld.1]
  rfl

/-- One step of the pump, other than the call of `driver.indicate`. -/
theorem Reachable.advance {E : Btp β} {S₀ S : System β} (d : Driver) {stage stage' : Stage}
    {w w' : World β} {calls : List Call} (hreach : Reachable E S₀ { S with pump := stage, world := w })
    (hplain : (∀ conn c2 data, stage ≠ .send conn c2 data) ∧
      ∀ id nested, stage ≠ .indicating id nested)
    (hadvance : stage.advance E d S.submitted w = ⟨w', calls, stage'⟩) :
    Reachable E S₀ { S with pump := stage', world := w' } := by
  have hnext := hreach.tail (.pump d) hplain.2
  have hact : act E { S with pump := stage, world := w } (.pump d) =
      { S with pump := stage', world := w' } := by
    simp only [act, hadvance]
    split
    · exact absurd rfl (hplain.1 _ _ _)
    · rfl
  rwa [hact] at hnext

theorem World.setEnded_self {w : World β} {e : Option ErrorCode} (h : w.ended = e) :
    w.setEnded e = w := by
  subst h
  rfl

/-- The pump calls `driver.indicate`, which returns without completing anything. -/
theorem Reachable.submit {E : Btp β} {S₀ S : System β} (d : Driver) (hduring : d.during = [])
    {conn : Connection} {c2 : Handle} {data : Bytes} {w : World β} (hended : w.ended = none)
    (hreach : Reachable E S₀ { S with pump := .markNack conn c2 data, world := w }) :
    ∃ S', Reachable E S₀ S' ∧ S'.host = S.host ∧ S'.pump = .start ∧
      S'.world = (Nimble.submit d conn.connHandle c2 data w).finish.1 := by
  have hmarked : Reachable E S₀ { S with pump := .send conn c2 data, world := w.setNack true } :=
    hreach.advance d ⟨nofun, nofun⟩ rfl
  have hsent := hmarked.tail (.pump d) nofun
  have hback := hsent.tail (.indicated d.indicate) ⟨S.submitted, .ret 0, rfl, trivial⟩
  unfold Nimble.submit
  rw [hduring]
  cases hresult : d.indicate with
  | ok u =>
      rw [hresult] at hback
      refine ⟨_, hback, rfl, rfl, ?_⟩
      exact (World.setEnded_self (w := w.setNack true) hended).symm
  | error e =>
      rw [hresult] at hback
      exact ⟨_, hback.tail (.pump d) nofun, rfl, rfl, rfl⟩

/-- The lock section of the outgoing pump. -/
theorem Reachable.processOutgoing {E : Btp β} {S₀ S : System β} (d : Driver)
    (hduring : d.during = []) {w : World β} (hended : w.ended = none)
    (hreach : Reachable E S₀ { S with pump := .advertised, world := w }) :
    ∃ S', Reachable E S₀ S' ∧ S'.host = S.host ∧ S'.pump = .start ∧
      S'.world = (Nimble.processOutgoing E d w).finish.1 := by
  have hdone : ∀ {w' : World β} {calls : List Call} {b : Bool}, w'.ended = none →
      Reachable E S₀ { S with pump := .start, world := w' } →
      ∃ S', Reachable E S₀ S' ∧ S'.host = S.host ∧ S'.pump = .start ∧
        S'.world = (Iteration.mk w' calls (.ok b)).finish.1 := fun hended' hreach' =>
    ⟨_, hreach', rfl, rfl, (World.setEnded_self hended').symm⟩
  unfold Nimble.processOutgoing
  cases hconn : w.state.connection with
  | none => exact hdone hended (hreach.advance d ⟨nofun, nofun⟩ (by rw [Stage.advance, if_pos hended, hconn]))
  | some conn =>
      dsimp only
      split
      · rename_i hsub
        exact hdone hended (hreach.advance d ⟨nofun, nofun⟩
          (by rw [Stage.advance, if_pos hended, hconn]; exact if_pos hsub))
      rename_i hsub
      have hentered : Reachable E S₀
          { S with pump := .checkNack conn, world := (w.syncBtp E).1 } :=
        hreach.advance d ⟨nofun, nofun⟩
          (by rw [Stage.advance, if_pos hended, hconn]; exact if_neg hsub)
      split
      · rename_i hnack
        exact hdone hended (hentered.advance d ⟨nofun, nofun⟩ (if_pos hnack))
      rename_i hnack
      have hchecked := hentered.advance d ⟨nofun, nofun⟩ (if_neg hnack)
      split
      · rename_i hzero
        exact hdone hended (hchecked.advance d ⟨nofun, nofun⟩ (if_pos hzero))
      rename_i hzero
      have hloaded := hchecked.advance d ⟨nofun, nofun⟩ (if_neg hzero)
      split
      · rename_i btp e hanswer
        refine ⟨_, hloaded.tail (.pump d) nofun, ?_, ?_, ?_⟩ <;>
          simp only [act, Stage.advance, hanswer]
        rfl
      rename_i btp frame hanswer
      split
      · rename_i hzero'
        exact hdone hended (hloaded.advance d ⟨nofun, nofun⟩
          (by simp only [Stage.advance, hanswer, if_pos hzero']; rfl))
      · rename_i hfull
        exact Reachable.submit d hduring hended (hloaded.advance d ⟨nofun, nofun⟩
          (by simp only [Stage.advance, hanswer, if_neg hfull]; rfl))

/-- One iteration of the outgoing pump, when nothing completes from within `driver.indicate`. -/
theorem reachable_outgoing (E : Btp β) (d : Driver) {S : System β} (hstart : S.pump = .start)
    (hended : S.world.ended = none) (hduring : d.during = []) :
    ∃ S', Reachable E S S' ∧ S'.host = S.host ∧ S'.pump = .start ∧
      S'.world = (step E S.world (.outgoing d)).1 := by
  have hadvertised : (readvertise d S.world).1.ended = none := by
    unfold readvertise
    split <;> exact hended
  have hfirst : Reachable E S { S with pump := .start, world := S.world } := by
    rw [← hstart]
    exact .refl
  have hstep : (step E S.world (.outgoing d)).1 =
      (Nimble.processOutgoing E d (readvertise d S.world).1).finish.1 := by
    rw [step, if_pos hended]
    rfl
  rw [hstep]
  exact Reachable.processOutgoing d hduring hadvertised
    (hfirst.advance d ⟨nofun, nofun⟩ (if_pos hended))

end EspIdfMatter.Nimble
