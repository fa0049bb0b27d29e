import EspIdfMatter.Central.Setup

/-! Safety of the sessions of the NimBLE GATT client: the engine is driven only after the setup was
completed, one Write Request at a time, and not after a disconnection. -/

namespace EspIdfMatter.Central

open Library Library.Machine Nimble

variable {β : Type}

/-! ### What an event does -/

/-- The effect of an event on the context, with what it records. -/
inductive Effect (c : Context) : Event → List Mark → Context → Prop where
  | nothing (event : Event) : Effect c event [] c
  | synced : Effect c (.host .sync) [] (c.modify fun s => { s with synced := true }).signalProgress
  | connected (connHandle : Handle) (u : Unit) (found : Except BleError BtAddr)
      (attMtu : Except BleError UInt16) :
      Effect c (.gap (.connect connHandle (.ok u) found attMtu)) [.connected]
        (c.modify fun s => { s with connHandle := some connHandle }).signalProgress
  | connectFailed (connHandle : Handle) (e : BleError) (found : Except BleError BtAddr)
      (attMtu : Except BleError UInt16) :
      Effect c (.gap (.connect connHandle (.error e) found attMtu)) [.connectFailed]
        (c.modify fun s => { s with failed := true }).signalProgress
  | disconnected (connHandle : Handle) (reason : Int) :
      Effect c (.gap (.disconnect connHandle reason)) [.disconnected]
        (c.modify fun s => { s with failed := true }).signalProgress.signalIn.signalOut
  | mtu (connHandle : Handle) (value : UInt16) :
      Effect c (.gap (.mtu connHandle value)) [] (c.modify fun s => { s with mtu := some value })
  | matterRange (service : BleGattService) :
      Effect c (.gattc (.service (some service))) [.matterRange]
        (c.modify fun s => { s with matterRange := some (service.startHandle, service.endHandle) })
  | servicesDone :
      Effect c (.gattc (.service none)) []
        (c.modify fun s => { s with servicesDone := true }).signalProgress
  | c1Val (chr : BleGattChr) :
      Effect c (.gattc (.characteristic (some chr))) [.c1Val]
        (c.modify fun s => { s with c1Val := some chr.valHandle })
  | c2Val (chr : BleGattChr) :
      Effect c (.gattc (.characteristic (some chr))) [.c2Val]
        (c.modify fun s => { s with c2Val := some chr.valHandle })
  | charsDone :
      Effect c (.gattc (.characteristic none)) []
        (c.modify fun s => { s with charsDone := true }).signalProgress
  | cccdWritten (attrHandle : Handle) (status : Int)
      (hcccd : c.state.c2Val.bind cccdHandle = some attrHandle) :
      Effect c (.gattc (.writeComplete attrHandle status)) (if status = 0 then [.subscribed] else [])
        (c.modify fun s => { s with subscribed := decide (status = 0) }).signalProgress
  | c1Written (attrHandle : Handle) (status : Int)
      (hcccd : c.state.c2Val.bind cccdHandle ≠ some attrHandle) :
      Effect c (.gattc (.writeComplete attrHandle status)) []
        (c.modify fun s => { s with outInflight := false }).signalOut
  | notified (attrHandle : Handle) (data : Mbuf) (inData : Buffer) :
      Effect c (.gattc (.notify attrHandle data)) []
        (c.modify fun s => { s with inData }).signalIn

theorem State.notify_eq (s : State) (data : Mbuf) : ∃ inData, s.notify data = { s with inData } := by
  unfold State.notify
  repeat' split
  all_goals exact ⟨_, rfl⟩

theorem onEvent_writeComplete {attrHandle : Handle} {status : Int} {c c' : Context}
    (h : onEvent (.gattc (.writeComplete attrHandle status)) c = some c') :
    c' = onWriteComplete attrHandle status (c.state.c2Val.bind cccdHandle) c := by
  simp only [onEvent, onGattcEvent] at h
  split at h
  · rename_i hc2
    cases h
    rw [hc2]
    rfl
  · rename_i c2Val hc2
    obtain ⟨cccd, hcccd, rfl⟩ := Option.map_eq_some_iff.mp h
    rw [hc2, Option.bind_some, hcccd]

theorem effect_writeComplete (c : Context) (attrHandle : Handle) (status : Int) :
    Effect c (.gattc (.writeComplete attrHandle status))
      (Event.marks c (.gattc (.writeComplete attrHandle status)))
      (onWriteComplete attrHandle status (c.state.c2Val.bind cccdHandle) c) := by
  by_cases hattr : c.state.c2Val.bind cccdHandle = some attrHandle
  · have hmarks : Event.marks c (.gattc (.writeComplete attrHandle status)) =
        if status = 0 then [.subscribed] else [] := by
      simp only [Event.marks, hattr, true_and]
    rw [hmarks, onWriteComplete, if_pos hattr.symm]
    exact .cccdWritten attrHandle status hattr
  · have hmarks : Event.marks c (.gattc (.writeComplete attrHandle status)) = [] :=
      if_neg fun h => hattr h.1
    rw [hmarks, onWriteComplete, if_neg fun h => hattr h.symm]
    split
    · exact .c1Written attrHandle status hattr
    · exact .nothing _

theorem effect_onEvent {event : Event} {c c' : Context} (h : onEvent event c = some c') :
    Effect c event (event.marks c) c' := by
  cases event with
  | host event =>
      cases event with
      | sync =>
          cases h
          exact .synced
      | other =>
          cases h
          exact .nothing _
  | gap event =>
      cases event with
      | connect connHandle status found attMtu =>
          cases status with
          | ok u =>
              cases h
              exact .connected connHandle u found attMtu
          | error e =>
              cases h
              exact .connectFailed connHandle e found attMtu
      | disconnect connHandle reason =>
          cases h
          exact .disconnected connHandle reason
      | mtu connHandle value =>
          cases h
          by_cases hconn : c.state.connHandle = some connHandle
          · simp only [onGapEvent, Context.modify, if_pos hconn]
            exact .mtu connHandle value
          · simp only [onGapEvent, Context.modify, if_neg hconn]
            exact .nothing _
      | other =>
          cases h
          exact .nothing _
  | gattc event =>
      cases event with
      | service service =>
          cases service with
          | none =>
              cases h
              exact .servicesDone
          | some service =>
              cases h
              by_cases huuid : service.uuid = .matterService
              · simp only [Event.marks, if_pos huuid]
                exact .matterRange service
              · simp only [Event.marks, if_neg huuid]
                exact .nothing _
      | characteristic chr =>
          cases chr with
          | none =>
              cases h
              exact .charsDone
          | some chr =>
              cases h
              by_cases hc1 : chr.uuid = .c1
              · simp only [Event.marks, Context.modify, if_pos hc1]
                exact .c1Val chr
              by_cases hc2 : chr.uuid = .c2
              · simp only [Event.marks, Context.modify, if_neg hc1, if_pos hc2]
                exact .c2Val chr
              · simp only [Event.marks, Context.modify, if_neg hc1, if_neg hc2]
                exact .nothing _
      | writeComplete attrHandle status =>
          rw [onEvent_writeComplete h]
          exact effect_writeComplete c attrHandle status
      | notify attrHandle data =>
          simp only [onEvent, onGattcEvent] at h
          split at h
          · cases h
            obtain ⟨inData, hnotify⟩ := State.notify_eq c.state data
            simp only [Context.modify, hnotify]
            exact .notified attrHandle data inData
          · cases h
            exact .nothing _
      | readComplete =>
          cases h
          exact .nothing _

/-! ### What the hooks record -/

/-- The state shows what was recorded. -/
def State.shows (s : State) : Mark → Bool
  | .connected => s.connHandle.isSome
  | .matterRange => s.matterRange.isSome
  | .c1Val => s.c1Val.isSome
  | .c2Val => s.c2Val.isSome
  | .subscribed => s.subscribed
  | .connectFailed => false
  | .disconnected => false

/-- The link is gone, or it never came up. -/
def Mark.Drops : Mark → Prop
  | .connectFailed | .disconnected => True
  | _ => False

/-- Whatever the state shows after an event, it showed before, or the event records it. -/
theorem Effect.shows {event : Event} {marks : List Mark} {c c' : Context} (h : Effect c event marks c')
    {mark : Mark} (hshows : c'.state.shows mark = true) : c.state.shows mark = true ∨ mark ∈ marks := by
  cases h with
  | connected =>
      cases mark with
      | connected => exact .inr List.mem_cons_self
      | _ => exact .inl hshows
  | matterRange =>
      cases mark with
      | matterRange => exact .inr List.mem_cons_self
      | _ => exact .inl hshows
  | c1Val =>
      cases mark with
      | c1Val => exact .inr List.mem_cons_self
      | _ => exact .inl hshows
  | c2Val =>
      cases mark with
      | c2Val => exact .inr List.mem_cons_self
      | _ => exact .inl hshows
  | cccdWritten attrHandle status hcccd =>
      cases mark with
      | subscribed =>
          have hstatus : status = 0 := of_decide_eq_true hshows
          rw [if_pos hstatus]
          exact .inr List.mem_cons_self
      | _ => exact .inl hshows
  | _ => cases mark <;> exact .inl hshows

theorem Effect.failed {event : Event} {marks : List Mark} {c c' : Context} (h : Effect c event marks c')
    (hfailed : c'.state.failed = false) :
    c.state.failed = false ∧ ∀ mark ∈ marks, ¬ mark.Drops := by
  cases h with
  | connectFailed => cases hfailed
  | disconnected => cases hfailed
  | cccdWritten attrHandle status hcccd =>
      refine ⟨hfailed, fun mark hmark => ?_⟩
      split at hmark
      · cases List.mem_singleton.mp hmark
        exact id
      · cases hmark
  | connected => exact ⟨hfailed, List.forall_mem_singleton.mpr id⟩
  | matterRange => exact ⟨hfailed, List.forall_mem_singleton.mpr id⟩
  | c1Val => exact ⟨hfailed, List.forall_mem_singleton.mpr id⟩
  | c2Val => exact ⟨hfailed, List.forall_mem_singleton.mpr id⟩
  | _ => exact ⟨hfailed, List.forall_mem_nil _⟩

/-! ### What was recorded by when -/

def Action.Drops : Action → Prop
  | .recorded mark => mark.Drops
  | _ => False

/-- The history accounts for the state. -/
structure Recorded (h : List Action) (s : State) : Prop where
  shows : ∀ mark, s.shows mark = true → .recorded mark ∈ h
  failed : s.failed = false → ∀ action ∈ h, ¬ action.Drops

theorem Recorded.event {h : List Action} {event : Event} {c c' : Context} (hrec : Recorded h c.state)
    (hevent : onEvent event c = some c') :
    Recorded (h ++ (event.marks c).map .recorded) c'.state := by
  have heffect := effect_onEvent hevent
  constructor
  · intro mark hshows
    rw [List.mem_append, List.mem_map]
    exact (heffect.shows hshows).imp (hrec.shows mark) fun hmark => ⟨mark, hmark, rfl⟩
  · intro hfailed action haction
    obtain ⟨hbefore, hmarks⟩ := heffect.failed hfailed
    rcases List.mem_append.mp haction with haction | haction
    · exact hrec.failed hbefore action haction
    · obtain ⟨mark, hmark, rfl⟩ := List.mem_map.mp haction
      exact hmarks mark hmark

/-- What is done that records nothing, in a state that shows the same. -/
theorem Recorded.keep {h actions : List Action} {s s' : State} (hrec : Recorded h s)
    (hshows : ∀ mark, s'.shows mark = s.shows mark) (hfailed : s'.failed = s.failed)
    (hactions : ∀ action ∈ actions, ¬ action.Drops) : Recorded (h ++ actions) s' := by
  constructor
  · intro mark hmark
    rw [hshows] at hmark
    exact List.mem_append_left _ (hrec.shows mark hmark)
  · intro hok action haction
    rw [hfailed] at hok
    exact (List.mem_append.mp haction).elim (hrec.failed hok action) (hactions action)

/-- What must have been recorded when `run` is here. -/
def Phase.needs : Phase → List Mark
  | .start | .wait .synced _ | .connect | .wait .connected _ | .readConnHandle | .stopped => []
  | .discoverServices _ | .wait (.services _) _ | .readRange _ => [.connected]
  | .discoverCharacteristics _ _ _ | .wait (.chars _) _ | .readChars _ => [.connected, .matterRange]
  | .subscribe _ _ _ | .wait (.subscribed _ _ _) _ | .checkFailed _ _ =>
      [.connected, .matterRange, .c1Val, .c2Val]
  | .setInitiator _ _ | .pumping _ _ => [.connected, .matterRange, .c1Val, .c2Val, .subscribed]

/-- All of the setup was recorded, and no end of the connection. -/
structure SetUp (h : List Action) : Prop where
  recorded : ∀ mark ∈ [Mark.connected, .matterRange, .c1Val, .c2Val, .subscribed], .recorded mark ∈ h
  up : ∀ action ∈ h, ¬ action.Drops

/-- At the last check the session was set up. -/
def Checked (h : List Action) : Prop :=
  ∃ before rest, h = before ++ .checked :: rest ∧ SetUp before ∧ Action.checked ∉ rest

/-- The action concerns the engine. -/
def Action.TouchesBtp : Action → Prop
  | .setInitiator => True
  | .call (.btp _) => True
  | _ => False

/-- The engine is touched only when the session was set up at the check just before. -/
def Permitted (before : List Action) (action : Action) : Prop := action.TouchesBtp → Checked before

/-- What holds along every run. -/
structure Sessions (h : List Action) (S : Client β) : Prop where
  permitted : Throughout Permitted h
  recorded : Recorded h S.state
  needs : ∀ mark ∈ S.phase.needs, .recorded mark ∈ h
  subscribed : ∀ conn c1Val, S.phase = .checkFailed conn c1Val →
    S.state.failed = true ∨ .recorded .subscribed ∈ h
  checked : ∀ conn c1Val, S.phase = .setInitiator conn c1Val → Checked h

theorem Checked.append {h actions : List Action} (hchecked : Checked h)
    (hactions : Action.checked ∉ actions) : Checked (h ++ actions) := by
  obtain ⟨before, rest, rfl, hsetUp, hrest⟩ := hchecked
  refine ⟨before, rest ++ actions, by simp, hsetUp, ?_⟩
  rw [List.mem_append]
  exact fun h => h.elim hrest hactions

section Keep

variable {h actions : List Action} {S S' : Client β}

/-- What `run` does on its own: it records nothing, and it does not touch the engine. -/
theorem Sessions.move (hS : Sessions h S) (hshows : ∀ mark, S'.state.shows mark = S.state.shows mark)
    (hfailed : S'.state.failed = S.state.failed)
    (hplain : ∀ action ∈ actions, ¬ action.Drops ∧ ¬ action.TouchesBtp)
    (hneeds : ∀ mark ∈ S'.phase.needs, .recorded mark ∈ h)
    (hsubscribed : ∀ conn c1Val, S'.phase = .checkFailed conn c1Val →
      S.state.failed = true ∨ .recorded .subscribed ∈ h)
    (hchecked : ∀ conn c1Val, S'.phase = .setInitiator conn c1Val → Checked (h ++ actions)) :
    Sessions (h ++ actions) S' where
  permitted := throughout_append hS.permitted fun action haction _ _ htouches =>
    absurd htouches (hplain action haction).2
  recorded := hS.recorded.keep hshows hfailed fun action haction => (hplain action haction).1
  needs mark hmark := List.mem_append_left _ (hneeds mark hmark)
  subscribed conn c1Val hphase := by
    rw [hfailed]
    exact (hsubscribed conn c1Val hphase).imp_right (List.mem_append_left _)
  checked := hchecked

theorem Sessions.fail (hS : Sessions h S)
    (hplain : ∀ action ∈ actions, ¬ action.Drops ∧ ¬ action.TouchesBtp) :
    Sessions (h ++ actions) S.fail :=
  hS.move (fun _ => rfl) rfl hplain (List.forall_mem_nil _) nofun nofun

/-- On to a point before the check. -/
theorem Sessions.goto (hS : Sessions h S) (hshows : ∀ mark, S'.state.shows mark = S.state.shows mark)
    (hfailed : S'.state.failed = S.state.failed)
    (hplain : ∀ action ∈ actions, ¬ action.Drops ∧ ¬ action.TouchesBtp)
    (hneeds : ∀ mark ∈ S'.phase.needs, .recorded mark ∈ h)
    (hphase : ∀ conn c1Val, S'.phase ≠ .checkFailed conn c1Val ∧ S'.phase ≠ .setInitiator conn c1Val) :
    Sessions (h ++ actions) S' :=
  hS.move hshows hfailed hplain hneeds (fun conn c1Val heq => absurd heq (hphase conn c1Val).1)
    fun conn c1Val heq => absurd heq (hphase conn c1Val).2

end Keep

theorem Wait.needs_next (wait : Wait) (blocked : Bool) :
    wait.next.needs = (Phase.wait wait blocked).needs := by
  cases wait <;> rfl

theorem Wait.needs_blocked (wait : Wait) (blocked blocked' : Bool) :
    (Phase.wait wait blocked).needs = (Phase.wait wait blocked').needs := by
  cases wait <;> rfl

theorem sessions_event {h : List Action} {S : Client β} (hS : Sessions h S) {event : Event}
    {context : Context} (hevent : onEvent event S.world.context = some context) :
    Sessions (h ++ (event.marks S.world.context).map .recorded)
      { S with
        world := { S.world with context }
        outstanding := event.completes S.outstanding } := by
  have hno : ∀ action ∈ (event.marks S.world.context).map Action.recorded,
      ∃ mark, action = .recorded mark := by
    intro action haction
    obtain ⟨mark, -, rfl⟩ := List.mem_map.mp haction
    exact ⟨mark, rfl⟩
  constructor
  · refine throughout_append hS.permitted fun action haction later _ htouches => ?_
    obtain ⟨mark, rfl⟩ := hno action haction
    exact absurd htouches id
  · exact hS.recorded.event hevent
  · exact fun mark hmark => List.mem_append_left _ (hS.needs mark hmark)
  · intro conn c1Val hphase
    refine (hS.subscribed conn c1Val hphase).imp (fun hfailed => ?_) (List.mem_append_left _)
    by_contra hok
    have hbefore := ((effect_onEvent hevent).failed (eq_false_of_ne_true hok)).1
    cases hbefore.symm.trans hfailed
  · intro conn c1Val hphase
    refine (hS.checked conn c1Val hphase).append fun hmem => ?_
    obtain ⟨mark, heq⟩ := hno _ hmem
    cases heq

/-- A driver call, and on to a wait. -/
theorem Sessions.proceed {h actions : List Action} {S : Client β} {ε : Type} (hS : Sessions h S)
    (result : Except ε Unit) {wait : Wait}
    (hplain : ∀ action ∈ actions, ¬ action.Drops ∧ ¬ action.TouchesBtp)
    (hneeds : ∀ mark ∈ (Phase.wait wait false).needs, .recorded mark ∈ h) :
    Sessions (h ++ actions) (S.proceed result (.wait wait false)) := by
  cases result with
  | error e => exact hS.fail hplain
  | ok u => exact hS.goto (fun _ => rfl) rfl hplain hneeds fun _ _ => ⟨nofun, nofun⟩

theorem sessions_advance {h : List Action} {S : Client β} (hS : Sessions h S) (addr : BtAddr)
    (d : Answers) : Sessions (h ++ (S.advance addr d).2) (S.advance addr d).1 := by
  have hneeds := hS.needs
  have hnone : ∀ action ∈ ([] : List Action), ¬ action.Drops ∧ ¬ action.TouchesBtp :=
    List.forall_mem_nil _
  unfold Client.advance
  cases hphase : S.phase with
  | start =>
      have hpeer : Sessions h { S with world := S.world.setState { S.state with peer := addr } } := by
        have hmoved : Sessions (h ++ [])
            { S with world := S.world.setState { S.state with peer := addr } } :=
          hS.goto (fun mark => by cases mark <;> rfl) rfl hnone hneeds
            fun _ _ => ⟨by rw [hphase]; nofun, by rw [hphase]; nofun⟩
        rwa [List.append_nil] at hmoved
      exact hpeer.proceed d.start hnone (List.forall_mem_nil _)
  | wait wait blocked =>
      rw [hphase] at hneeds
      cases blocked with
      | false =>
          dsimp only
          split
          · rename_i hpred
            refine hS.move (fun _ => rfl) rfl hnone (by rw [Wait.needs_next wait false]; exact hneeds)
              (fun conn c1Val heq => ?_) (fun conn c1Val heq => ?_)
            · cases wait with
              | subscribed =>
                  rw [Wait.pred, Bool.or_eq_true] at hpred
                  exact hpred.symm.imp_right (hS.recorded.shows .subscribed)
              | _ => cases heq
            · cases wait <;> cases heq
          · exact hS.goto (fun _ => rfl) rfl hnone (by rw [Wait.needs_blocked wait true false]; exact hneeds)
              fun _ _ => ⟨nofun, nofun⟩
      | true =>
          dsimp only
          split
          · exact hS.goto (fun _ => rfl) rfl hnone (by rw [Wait.needs_blocked wait false true]; exact hneeds)
              fun _ _ => ⟨nofun, nofun⟩
          · rwa [List.append_nil]
  | connect =>
      dsimp only
      split
      · exact hS.fail (by simp [Action.Drops, Action.TouchesBtp])
      · exact hS.proceed d.connect (by simp [Action.Drops, Action.TouchesBtp]) (List.forall_mem_nil _)
  | readConnHandle =>
      dsimp only
      split
      · exact hS.fail hnone
      · rename_i conn hconn
        have hconnected := hS.recorded.shows .connected (by rw [State.shows, hconn]; rfl)
        exact hS.goto (fun _ => rfl) rfl hnone (List.forall_mem_singleton.mpr hconnected)
          fun _ _ => ⟨nofun, nofun⟩
  | discoverServices conn =>
      rw [hphase] at hneeds
      exact hS.proceed d.discoverServices (by simp [Action.Drops, Action.TouchesBtp]) hneeds
  | readRange conn =>
      rw [hphase] at hneeds
      dsimp only
      split
      · exact hS.fail hnone
      · rename_i hrange
        have hmatter := hS.recorded.shows .matterRange (by rw [State.shows, hrange]; rfl)
        refine hS.goto (fun _ => rfl) rfl hnone ?_ fun _ _ => ⟨nofun, nofun⟩
        exact List.forall_mem_cons.mpr ⟨hneeds .connected (by simp [Phase.needs]),
          List.forall_mem_singleton.mpr hmatter⟩
  | discoverCharacteristics conn startHandle endHandle =>
      rw [hphase] at hneeds
      exact hS.proceed d.discoverCharacteristics (by simp [Action.Drops, Action.TouchesBtp]) hneeds
  | readChars conn =>
      rw [hphase] at hneeds
      dsimp only
      split
      · rename_i c1Val c2Val hc1 hc2
        have hc1Val := hS.recorded.shows .c1Val (by rw [State.shows, hc1]; rfl)
        have hc2Val := hS.recorded.shows .c2Val (by rw [State.shows, hc2]; rfl)
        refine hS.goto (fun _ => rfl) rfl hnone ?_ fun _ _ => ⟨nofun, nofun⟩
        simp only [Phase.needs, List.forall_mem_cons] at hneeds ⊢
        exact ⟨hneeds.1, hneeds.2.1, hc1Val, hc2Val, List.forall_mem_nil _⟩
      · exact hS.fail hnone
  | subscribe conn c1Val c2Val =>
      rw [hphase] at hneeds
      dsimp only
      split
      · exact hS.goto (fun _ => rfl) rfl hnone hneeds fun _ _ => ⟨nofun, nofun⟩
      · split
        · exact hS.fail (by simp [Action.Drops, Action.TouchesBtp])
        · exact hS.goto (fun _ => rfl) rfl (by simp [Action.Drops, Action.TouchesBtp]) hneeds
            fun _ _ => ⟨nofun, nofun⟩
  | checkFailed conn c1Val =>
      rw [hphase] at hneeds
      dsimp only
      split
      · exact hS.fail hnone
      · rename_i hfailed
        rw [Bool.not_eq_true] at hfailed
        have hsubscribed := (hS.subscribed conn c1Val hphase).resolve_left (by rw [hfailed]; nofun)
        have hall : ∀ mark ∈ [Mark.connected, .matterRange, .c1Val, .c2Val, .subscribed],
            .recorded mark ∈ h := by
          simp only [Phase.needs, List.forall_mem_cons] at hneeds ⊢
          obtain ⟨h₁, h₂, h₃, h₄, -⟩ := hneeds
          exact ⟨h₁, h₂, h₃, h₄, hsubscribed, List.forall_mem_nil _⟩
        exact hS.move (fun _ => rfl) rfl (by simp [Action.Drops, Action.TouchesBtp]) hall nofun
          fun _ _ _ => ⟨h, [], rfl, ⟨hall, hS.recorded.failed hfailed⟩, List.not_mem_nil⟩
  | setInitiator conn c1Val =>
      rw [hphase] at hneeds
      have hchecked := hS.checked conn c1Val hphase
      exact {
        permitted := throughout_concat.mpr ⟨hS.permitted, fun _ => hchecked⟩
        recorded := hS.recorded.keep (fun _ => rfl) rfl (by simp [Action.Drops])
        needs := fun mark hmark => List.mem_append_left _ (hneeds mark hmark)
        subscribed := nofun
        checked := nofun }
  | pumping conn c1Val =>
      dsimp only
      rwa [List.append_nil]
  | stopped =>
      dsimp only
      rwa [List.append_nil]

/-! ### The pumps -/

/-- What an iteration of a pump does: nothing after a failure; otherwise it changes the buffers, and it
submits a Write Request only if none is in flight. -/
structure Pumps (w : World β) (it : Iteration β) : Prop where
  failed : w.state.failed = true → it = ⟨w, [], .error .noNetworkInterface⟩
  state : ∃ inData outData outInflight,
    it.world.state = { w.state with inData, outData, outInflight }
  submits : it.calls.filterMap Call.submits = [] ∧
      it.world.state.outInflight = w.state.outInflight ∨
    ∃ attr, it.calls.filterMap Call.submits = [(.c1, attr)] ∧
      w.state.outInflight = false ∧ it.world.state.outInflight = true

theorem pumps_processIncoming (E : Btp β) (w : World β) : Pumps w (processIncoming E w) := by
  refine ⟨fun hfailed => if_pos hfailed, ?_, .inl ?_⟩
  · unfold processIncoming
    dsimp only
    repeat' split
    all_goals exact ⟨_, _, _, rfl⟩
  · unfold processIncoming
    dsimp only
    repeat' split
    all_goals exact ⟨rfl, rfl⟩

theorem pumps_processOutgoing (E : Btp β) (conn c1Val : Handle) (result : Except BleError Unit)
    (w : World β) : Pumps w (processOutgoing E conn c1Val result w) := by
  refine ⟨fun hfailed => if_pos hfailed, ?_, ?_⟩
  · unfold processOutgoing
    dsimp only
    repeat' split
    all_goals exact ⟨_, _, _, rfl⟩
  · unfold processOutgoing
    split
    · exact .inl ⟨rfl, rfl⟩
    split
    · exact .inl ⟨rfl, rfl⟩
    rename_i hinflight
    dsimp only
    split
    · exact .inl ⟨rfl, rfl⟩
    split
    · split
      · exact .inl ⟨rfl, rfl⟩
      · exact .inr ⟨c1Val, rfl, eq_false_of_ne_true hinflight, rfl⟩
    · exact .inl ⟨rfl, rfl⟩

theorem sessions_pump {h : List Action} {S : Client β} (hS : Sessions h S) {conn c1Val : Handle}
    (hphase : S.phase = .pumping conn c1Val) {it : Iteration β} (hit : Pumps S.world it) :
    Sessions (h ++ (S.pump it).2) (S.pump it).1 := by
  have hno : ∀ action ∈ it.calls.map Action.call, ∃ call, action = .call call := by
    intro action haction
    obtain ⟨call, -, rfl⟩ := List.mem_map.mp haction
    exact ⟨call, rfl⟩
  have hchecks : ∀ action ∈ (if S.state.failed = true then [] else [Action.checked]),
      action = .checked := by
    split
    · exact List.forall_mem_nil _
    · exact List.forall_mem_singleton.mpr rfl
  obtain ⟨inData, outData, outInflight, hstate⟩ := hit.state
  have hstate' : (S.pump it).1.state = { S.state with inData, outData, outInflight } := hstate
  constructor
  · by_cases hfailed : S.state.failed = true
    · have hcalls : (S.pump it).2 = [] := by
        rw [hit.failed hfailed]
        simp only [Client.pump, if_pos hfailed, List.map_nil, List.append_nil]
      rw [hcalls, List.append_nil]
      exact hS.permitted
    · have hsetUp : SetUp h :=
        ⟨by have hneeds := hS.needs; rwa [hphase] at hneeds,
          hS.recorded.failed (eq_false_of_ne_true hfailed)⟩
      have hcalls : (S.pump it).2 = [.checked] ++ it.calls.map .call := by
        simp only [Client.pump, if_neg hfailed]
      rw [hcalls, ← List.append_assoc]
      refine throughout_append (throughout_concat.mpr ⟨hS.permitted, fun htouches => htouches.elim⟩) ?_
      intro action _ later hlater _
      refine ⟨h, later, by simp, hsetUp, fun hmem => ?_⟩
      obtain ⟨call, heq⟩ := hno _ (hlater.subset hmem)
      cases heq
  · refine hS.recorded.keep (fun mark => by rw [hstate']; cases mark <;> rfl) (by rw [hstate']) ?_
    intro action haction
    rcases List.mem_append.mp haction with haction | haction
    · rw [hchecks action haction]
      exact id
    · obtain ⟨call, rfl⟩ := hno action haction
      exact id
  · exact fun mark hmark => List.mem_append_left _ (hS.needs mark hmark)
  · intro conn' c1Val' heq
    cases hphase.symm.trans heq
  · intro conn' c1Val' heq
    cases hphase.symm.trans heq

theorem sessions_step (E : Btp β) (addr : BtAddr) {h : List Action} {S : Client β} (hS : Sessions h S)
    (input : Input β) : Sessions (h ++ (S.step E addr input).2) (S.step E addr input).1 := by
  have hsame : Sessions (h ++ []) S := by rwa [List.append_nil]
  have hmoves := S.moves_step E addr input
  generalize S.step E addr input = next at hmoves ⊢
  cases hmoves with
  | nothing => exact hsame
  | event _ _ hevent => exact sessions_event hS hevent
  | run d => exact sessions_advance hS addr d
  | incoming _ _ hphase => exact sessions_pump hS hphase (pumps_processIncoming E S.world)
  | outgoing result _ _ hphase => exact sessions_pump hS hphase (pumps_processOutgoing E _ _ result S.world)
  | overflow | matter =>
      exact hS.move (fun _ => rfl) rfl (List.forall_mem_nil _) hS.needs hS.subscribed
        (by rw [List.append_nil]; exact hS.checked)

/-! ### One Write Request at a time -/

/-- A Write Request completes only after it was submitted, and once. -/
def Completes (S : Client β) : Input β → Prop
  | .event (.gattc (.writeComplete attrHandle _)) => ∃ purpose, (purpose, attrHandle) ∈ S.outstanding
  | _ => True

/-- The CCCD is not written yet. -/
def Phase.Early : Phase → Prop
  | .wait (.subscribed _ _ _) _ | .checkFailed _ _ | .setInitiator _ _ | .pumping _ _ | .stopped => False
  | _ => True

/-- At most one Write Request is outstanding, and none when another one is about to be submitted. -/
structure OneAtATime (S : Client β) : Prop where
  one : S.outstanding.length ≤ 1
  early : S.phase.Early → S.outstanding = [] ∧ S.state.subscribed = false
  waiting : ∀ conn c1Val c2Val blocked, S.phase = .wait (.subscribed conn c1Val c2Val) blocked →
    S.state.subscribed = true → S.outstanding = []
  checkFailed : ∀ conn c1Val, S.phase = .checkFailed conn c1Val →
    S.state.failed = true ∨ S.outstanding = []
  setInitiator : ∀ conn c1Val, S.phase = .setInitiator conn c1Val → S.outstanding = []
  pumping : ∀ conn c1Val, S.phase = .pumping conn c1Val →
    S.outstanding = [] ∨ S.state.outInflight = true

theorem OneAtATime.of_none {S : Client β} (hnone : S.outstanding = [])
    (hearly : S.phase.Early → S.state.subscribed = false) : OneAtATime S where
  one := by rw [hnone]; exact Nat.zero_le 1
  early h := ⟨hnone, hearly h⟩
  waiting _ _ _ _ _ _ := hnone
  checkFailed _ _ _ := .inr hnone
  setInitiator _ _ _ := hnone
  pumping _ _ _ := .inl hnone

/-- What it depends on did not change. -/
theorem OneAtATime.keep {S S' : Client β} (hS : OneAtATime S) (hphase : S'.phase = S.phase)
    (hout : S'.outstanding = S.outstanding) (hsubscribed : S'.state.subscribed = S.state.subscribed)
    (hfailed : S'.state.failed = S.state.failed)
    (hinflight : S'.state.outInflight = S.state.outInflight) : OneAtATime S' := by
  constructor
  · rw [hout]
    exact hS.one
  · rw [hphase, hout, hsubscribed]
    exact hS.early
  · rw [hphase, hout, hsubscribed]
    exact hS.waiting
  · rw [hphase, hout, hfailed]
    exact hS.checkFailed
  · rw [hphase, hout]
    exact hS.setInitiator
  · rw [hphase, hout, hinflight]
    exact hS.pumping

/-- The completion of the only outstanding Write Request leaves none. -/
theorem completes_eq_nil {outstanding : List (Purpose × Handle)} (hone : outstanding.length ≤ 1)
    {purpose : Purpose} {attrHandle : Handle} (hmem : (purpose, attrHandle) ∈ outstanding) (status : Int) :
    Event.completes outstanding (.gattc (.writeComplete attrHandle status)) = [] := by
  cases outstanding with
  | nil => cases hmem
  | cons write rest =>
      have hrest : rest = [] := by
        apply List.length_eq_zero_iff.mp
        rw [List.length_cons] at hone
        omega
      subst hrest
      cases List.mem_singleton.mp hmem
      simp [Event.completes]

/-- Events other than completions submit and complete nothing. -/
theorem Effect.writes {event : Event} {marks : List Mark} {c c' : Context} (h : Effect c event marks c')
    (hother : ∀ attrHandle status, event ≠ .gattc (.writeComplete attrHandle status)) :
    (∀ outstanding, event.completes outstanding = outstanding) ∧
      c'.state.subscribed = c.state.subscribed ∧ c'.state.outInflight = c.state.outInflight := by
  have hcompletes : ∀ outstanding, event.completes outstanding = outstanding := by
    intro outstanding
    unfold Event.completes
    split
    · exact absurd rfl (hother _ _)
    · rfl
  cases h with
  | cccdWritten => exact absurd rfl (hother _ _)
  | c1Written => exact absurd rfl (hother _ _)
  | _ => exact ⟨hcompletes, rfl, rfl⟩

theorem oneAtATime_event {S : Client β} (hS : OneAtATime S) {event : Event}
    (hcompletes : Completes S (.event event)) {context : Context}
    (hevent : onEvent event S.world.context = some context) :
    OneAtATime { S with
      world := { S.world with context }
      outstanding := event.completes S.outstanding } := by
  have heffect := effect_onEvent hevent
  by_cases hwrite : ∃ attrHandle status, event = .gattc (.writeComplete attrHandle status)
  · obtain ⟨attrHandle, status, rfl⟩ := hwrite
    obtain ⟨purpose, hmem⟩ := hcompletes
    refine .of_none (completes_eq_nil hS.one hmem status) fun hearly => ?_
    rw [(hS.early hearly).1] at hmem
    cases hmem
  · push Not at hwrite
    obtain ⟨hsame, hsubscribed, hinflight⟩ := heffect.writes hwrite
    rw [hsame]
    constructor
    · exact hS.one
    · intro hearly
      obtain ⟨hnone, hno⟩ := hS.early hearly
      exact ⟨hnone, hsubscribed.trans hno⟩
    · intro conn c1Val c2Val blocked hphase hyes
      exact hS.waiting conn c1Val c2Val blocked hphase (hsubscribed.symm.trans hyes)
    · intro conn c1Val hphase
      refine (hS.checkFailed conn c1Val hphase).imp_left fun hfailed => ?_
      by_contra hok
      cases ((effect_onEvent hevent).failed (eq_false_of_ne_true hok)).1.symm.trans hfailed
    · exact hS.setInitiator
    · intro conn c1Val hphase
      exact (hS.pumping conn c1Val hphase).imp_right hinflight.trans

theorem OneAtATime.fail {S : Client β} (hS : OneAtATime S) : OneAtATime S.fail :=
  ⟨hS.one, False.elim, nofun, nofun, nofun, nofun⟩

theorem OneAtATime.proceed {S : Client β} (hnone : S.outstanding = []) (hno : S.state.subscribed = false)
    {ε : Type} (result : Except ε Unit) (phase : Phase) : OneAtATime (S.proceed result phase) := by
  cases result with
  | error e => exact .of_none hnone fun _ => hno
  | ok u => exact .of_none hnone fun _ => hno

/-- Still in the same wait. -/
theorem OneAtATime.wait {S S' : Client β} (hS : OneAtATime S) {wait : Wait} {blocked blocked' : Bool}
    (hphase : S.phase = .wait wait blocked) (hphase' : S'.phase = .wait wait blocked')
    (hout : S'.outstanding = S.outstanding) (hsubscribed : S'.state.subscribed = S.state.subscribed) :
    OneAtATime S' := by
  refine ⟨hout ▸ hS.one, fun hearly => ?_, fun conn c1Val c2Val b heq hyes => ?_, by rw [hphase']; nofun,
    by rw [hphase']; nofun, by rw [hphase']; nofun⟩
  · rw [hout, hsubscribed]
    apply hS.early
    rw [hphase'] at hearly
    rw [hphase]
    cases wait <;> exact hearly
  · rw [hphase'] at heq
    cases heq
    rw [hout]
    exact hS.waiting conn c1Val c2Val blocked hphase (hsubscribed.symm.trans hyes)

/-- The wait is over. -/
theorem OneAtATime.next {S : Client β} (hS : OneAtATime S) {wait : Wait}
    (hphase : S.phase = .wait wait false) (hpred : wait.pred S.state = true) :
    OneAtATime { S with phase := wait.next } := by
  cases wait with
  | subscribed conn c1Val c2Val =>
      rw [Wait.pred, Bool.or_eq_true] at hpred
      refine ⟨hS.one, False.elim, nofun, fun _ _ _ => ?_, nofun, nofun⟩
      exact hpred.symm.imp_right (hS.waiting conn c1Val c2Val false hphase)
  | _ =>
      obtain ⟨hnone, hno⟩ := hS.early (by rw [hphase]; trivial)
      exact .of_none hnone fun _ => hno

theorem oneAtATime_advance {S : Client β} (hS : OneAtATime S) (addr : BtAddr) (d : Answers) :
    OneAtATime (S.advance addr d).1 := by
  have hearly := hS.early
  unfold Client.advance
  cases hphase : S.phase with
  | start =>
      obtain ⟨hnone, hno⟩ := hearly (by rw [hphase]; trivial)
      exact .proceed (S := { S with world := S.world.setState { S.state with peer := addr } })
        hnone hno d.start _
  | wait wait blocked =>
      cases blocked with
      | true =>
          dsimp only
          split
          · exact hS.wait hphase rfl rfl rfl
          · exact hS
      | false =>
          dsimp only
          split
          · rename_i hpred
            exact hS.next hphase hpred
          · exact hS.wait hphase rfl rfl rfl
  | connect =>
      obtain ⟨hnone, hno⟩ := hearly (by rw [hphase]; trivial)
      dsimp only
      split
      · exact hS.fail
      · exact .proceed hnone hno d.connect _
  | readConnHandle =>
      obtain ⟨hnone, hno⟩ := hearly (by rw [hphase]; trivial)
      dsimp only
      split
      · exact hS.fail
      · exact .of_none hnone fun _ => hno
  | discoverServices conn =>
      obtain ⟨hnone, hno⟩ := hearly (by rw [hphase]; trivial)
      exact .proceed hnone hno d.discoverServices _
  | readRange conn =>
      obtain ⟨hnone, hno⟩ := hearly (by rw [hphase]; trivial)
      dsimp only
      split
      · exact hS.fail
      · exact .of_none hnone fun _ => hno
  | discoverCharacteristics conn startHandle endHandle =>
      obtain ⟨hnone, hno⟩ := hearly (by rw [hphase]; trivial)
      exact .proceed hnone hno d.discoverCharacteristics _
  | readChars conn =>
      obtain ⟨hnone, hno⟩ := hearly (by rw [hphase]; trivial)
      dsimp only
      split
      · exact .of_none hnone fun _ => hno
      · exact hS.fail
  | subscribe conn c1Val c2Val =>
      obtain ⟨hnone, hno⟩ := hearly (by rw [hphase]; trivial)
      dsimp only
      split
      · exact .of_none hnone fun _ => hno
      · split
        · exact hS.fail
        · refine ⟨by rw [hnone]; exact le_rfl, False.elim, fun _ _ _ _ _ hyes => ?_, nofun, nofun, nofun⟩
          cases hno.symm.trans hyes
  | checkFailed conn c1Val =>
      dsimp only
      split
      · exact hS.fail
      · rename_i hfailed
        have hnone := (hS.checkFailed conn c1Val hphase).resolve_left hfailed
        exact .of_none hnone False.elim
  | setInitiator conn c1Val => exact .of_none (hS.setInitiator conn c1Val hphase) False.elim
  | pumping conn c1Val => exact hS
  | stopped => exact hS

theorem oneAtATime_pump {S : Client β} (hS : OneAtATime S) {conn c1Val : Handle}
    (hphase : S.phase = .pumping conn c1Val) {it : Iteration β} (hit : Pumps S.world it) :
    OneAtATime (S.pump it).1 := by
  have hidle := hS.pumping conn c1Val hphase
  have hpumping : (S.pump it).1.phase = .pumping conn c1Val := hphase
  refine ⟨?_, by rw [hpumping]; exact False.elim, by rw [hpumping]; nofun, by rw [hpumping]; nofun,
    by rw [hpumping]; nofun, fun _ _ _ => ?_⟩
  · rcases hit.submits with ⟨hnone, -⟩ | ⟨attr, hone, hbefore, -⟩
    · simp only [Client.pump, hnone, List.append_nil]
      exact hS.one
    · have hout := hidle.resolve_right (by rw [Client.state, hbefore]; nofun)
      simp only [Client.pump, hone, hout]
      exact le_rfl
  · rcases hit.submits with ⟨hnone, hsame⟩ | ⟨attr, -, -, hafter⟩
    · simp only [Client.pump, hnone, List.append_nil]
      exact hidle.imp_right hsame.trans
    · exact .inr hafter

theorem oneAtATime_step (E : Btp β) (addr : BtAddr) {S : Client β} (hS : OneAtATime S) (input : Input β)
    (hinput : Completes S input) : OneAtATime (S.step E addr input).1 := by
  have hmoves := S.moves_step E addr input
  generalize S.step E addr input = next at hmoves ⊢
  cases hmoves with
  | nothing => exact hS
  | event _ _ hevent => exact oneAtATime_event hS hinput hevent
  | run d => exact oneAtATime_advance hS addr d
  | incoming _ _ hphase => exact oneAtATime_pump hS hphase (pumps_processIncoming E S.world)
  | outgoing result _ _ hphase =>
      exact oneAtATime_pump hS hphase (pumps_processOutgoing E _ _ result S.world)
  | overflow | matter => exact hS.keep rfl rfl rfl rfl rfl

/-! ### Runs -/

theorem sessions_fresh (btp : β) : Sessions [] (Client.fresh btp) where
  permitted := throughout_nil _
  recorded := by
    refine ⟨fun mark hmark => ?_, fun _ => List.forall_mem_nil _⟩
    cases mark <;> cases hmark
  needs := List.forall_mem_nil _
  subscribed := nofun
  checked := nofun

theorem sessions_run (E : Btp β) (addr : BtAddr) (btp : β) (inputs : List (Input β)) :
    Sessions (outputs (Client.step E addr) (.fresh btp) inputs)
      (after (Client.step E addr) (.fresh btp) inputs) :=
  run_induction (Client.step E addr) (I := fun h S _ => Sessions h S)
    (fun _ _ input _ hS => sessions_step E addr hS input) (sessions_fresh btp)

/-- Nothing is done by a pump after a failure, other than ending the run. -/
theorem step_of_failed (E : Btp β) (addr : BtAddr) {S : Client β} (hfailed : S.state.failed = true)
    {input : Input β} (hpump : input = .incoming ∨ ∃ result, input = .outgoing result) :
    (S.step E addr input).2 = [] ∧
      ((∃ conn c1Val, S.phase = .pumping conn c1Val) → S.world.ended = none → S.world.aborted = false →
        (S.step E addr input).1.world.ended = some .noNetworkInterface) := by
  have hpumped : ∀ it : Iteration β, Pumps S.world it →
      (S.pump it).2 = [] ∧ (S.pump it).1.world.ended = some .noNetworkInterface := by
    intro it hit
    rw [hit.failed hfailed]
    simp only [Client.pump, if_pos hfailed]
    exact ⟨rfl, rfl⟩
  unfold Client.step
  split
  · rename_i haborted
    refine ⟨rfl, fun _ _ hrunning => ?_⟩
    cases haborted.symm.trans hrunning
  · obtain rfl | ⟨result, rfl⟩ := hpump
    · dsimp only
      split
      · split
        · obtain ⟨hcalls, hended⟩ := hpumped _ (pumps_processIncoming E S.world)
          exact ⟨hcalls, fun _ _ _ => hended⟩
        · rename_i hended
          exact ⟨rfl, fun _ hrunning => absurd hrunning hended⟩
      · rename_i hphase
        exact ⟨rfl, fun ⟨conn, c1Val, hpumping⟩ => absurd hpumping (hphase conn c1Val)⟩
    · dsimp only
      split
      · rename_i conn c1Val hphase
        split
        · obtain ⟨hcalls, hended⟩ := hpumped _ (pumps_processOutgoing E conn c1Val result S.world)
          exact ⟨hcalls, fun _ _ _ => hended⟩
        · rename_i hended
          exact ⟨rfl, fun _ hrunning => absurd hrunning hended⟩
      · rename_i hphase
        exact ⟨rfl, fun ⟨conn, c1Val, hpumping⟩ => absurd hpumping (hphase conn c1Val)⟩

/-- **The sessions of the client are safe.** Along every run of a client just created, the engine is
touched only when the setup was recorded and the connection was up at the check just before; at most one
Write Request is outstanding; and once a disconnection was recorded, an iteration of a pump calls
nothing and ends the run. -/
theorem sessions_safe (E : Btp β) (addr : BtAddr) (btp : β) (inputs : List (Input β)) :
    Throughout Permitted (outputs (Client.step E addr) (.fresh btp) inputs) ∧
    (Along (Client.step E addr) Completes (.fresh btp) inputs →
      (after (Client.step E addr) (.fresh btp) inputs).outstanding.length ≤ 1) ∧
    (.recorded .disconnected ∈ outputs (Client.step E addr) (.fresh btp) inputs →
      ∀ input : Input β, (input = .incoming ∨ ∃ result, input = .outgoing result) →
        ((after (Client.step E addr) (.fresh btp) inputs).step E addr input).2 = [] ∧
        ((∃ conn c1Val, (after (Client.step E addr) (.fresh btp) inputs).phase = .pumping conn c1Val) →
          (after (Client.step E addr) (.fresh btp) inputs).world.ended = none →
          (after (Client.step E addr) (.fresh btp) inputs).world.aborted = false →
          ((after (Client.step E addr) (.fresh btp) inputs).step E addr input).1.world.ended =
            some .noNetworkInterface)) := by
  have hsessions := sessions_run E addr btp inputs
  refine ⟨hsessions.permitted, fun hrun => ?_, fun hdisconnected input hpump => ?_⟩
  · have hfresh : OneAtATime (Client.fresh btp) := .of_none rfl fun _ => rfl
    exact (invariant_after (I := OneAtATime)
      (fun _ input hS hinput => oneAtATime_step E addr hS input hinput) hfresh hrun).one
  · apply step_of_failed E addr ?_ hpump
    by_contra hok
    exact hsessions.recorded.failed (eq_false_of_ne_true hok) _ hdisconnected trivial

/-- A driver whose calls succeed. -/
def Answers.succeeding : Answers := ⟨.ok (), .ok (), .ok (), .ok (), .ok (), .ok ()⟩

/-- A session is set up, and a segment is written. -/
def establishedRun : List (Input (List Buffer)) :=
  [.run .succeeding, .event (.host .sync), .run .succeeding, .run .succeeding,
    .event (.gap (.connect 1 (.ok ()) (.error ⟨0⟩) (.error ⟨0⟩))), .run .succeeding, .run .succeeding,
    .run .succeeding, .event (.gattc (.service (some ⟨.matterService, 10, 20⟩))),
    .event (.gattc (.service none)), .run .succeeding, .run .succeeding, .run .succeeding,
    .event (.gattc (.characteristic (some ⟨.c1, 12⟩))),
    .event (.gattc (.characteristic (some ⟨.c2, 14⟩))), .event (.gattc (.characteristic none)),
    .run .succeeding, .run .succeeding, .run .succeeding, .event (.gattc (.writeComplete 15 0)),
    .run .succeeding, .run .succeeding, .run .succeeding, .outgoing (.ok ())]

theorem sessions_safe_established :
    (after (Client.step .queue ⟨.replicate 6 7⟩) (.fresh [⟨[1], by decide⟩]) establishedRun).phase =
        .pumping 1 12 ∧
      (after (Client.step .queue ⟨.replicate 6 7⟩) (.fresh [⟨[1], by decide⟩])
        establishedRun).outstanding.length ≤ 1 := by
  refine ⟨by decide +kernel, ?_⟩
  apply (sessions_safe .queue ⟨.replicate 6 7⟩ [⟨[1], by decide⟩] establishedRun).2.1
  refine ⟨trivial, trivial, trivial, trivial, trivial, trivial, trivial, trivial, trivial, trivial,
    trivial, trivial, trivial, trivial, trivial, trivial, trivial, trivial, trivial, ?_, trivial,
    trivial, trivial, trivial, trivial⟩
  exact ⟨.cccd, by decide +kernel⟩

end EspIdfMatter.Central
