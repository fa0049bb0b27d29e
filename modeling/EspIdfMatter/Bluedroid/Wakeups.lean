import EspIdfMatter.Bluedroid.Tasks
import EspIdfMatter.Library.Latch

/-! Wake-ups of the pumps of the Bluedroid peripheral: what a handler gives a pump to do, it signals. -/

namespace EspIdfMatter.Bluedroid

open Library Library.Machine

variable {β : Type}

/-! ### Events -/

/-- What an event means to the pumps, when no signal was raised before it. -/
structure Announced (s : State) (c' : Context) : Prop where
  incoming : s.IncomingIdle → c'.notifyProcessIncoming = true ∨ c'.state.IncomingIdle
  subscribed : c'.state.subscribed = true →
    c'.notifyProcessOutgoing = true ∨ s.subscribed = true ∧ c'.state.connGen = s.connGen
  acknowledged : s.outNack = true →
    c'.notifyProcessOutgoing = true ∨ c'.state.subscribed = false ∨ c'.state.outNack = true

/-- An event about the service. -/
theorem Announced.of_sameSession {s : State} {c' : Context} (h : s.SameSession c'.state) :
    Announced s c' := by
  refine ⟨fun hidle => .inr ?_, fun hsub => .inr ⟨?_, h.connGen⟩, fun hnack => .inr (.inr ?_)⟩
  · rw [State.IncomingIdle, h.connection, h.btpGen, h.connGen, h.inData]
    exact hidle
  · rw [State.subscribed, h.connection] at hsub
    exact hsub
  · rw [h.outNack]
    exact hnack

theorem registerConnMtu_eq (connId : Handle) (mtu : UInt16) (s : State) :
    ∃ connection, s.registerConnMtu connId mtu = { s with connection } ∧
      connection.isSome = s.connection.isSome ∧
      (s.registerConnMtu connId mtu).subscribed = s.subscribed := by
  unfold State.registerConnMtu
  split
  · rename_i conn hconn
    rw [State.subscribed, State.subscribed, hconn]
    split
    · exact ⟨some { conn with mtu := some mtu }, rfl, rfl, rfl⟩
    · exact ⟨some conn, by rw [← hconn], rfl, by rw [hconn]⟩
  · exact ⟨s.connection, rfl, rfl, rfl⟩

theorem announced_mtu (connId : Handle) (mtu : UInt16) (s : State) {c' : Context}
    (h : c'.state = s.registerConnMtu connId mtu) : Announced s c' := by
  obtain ⟨connection, hmtu, hsome, hsub⟩ := registerConnMtu_eq connId mtu s
  rw [← h] at hsub hmtu
  refine ⟨fun hidle => .inr ?_, fun hsubscribed => .inr ⟨hsub.symm.trans hsubscribed, by rw [hmtu]⟩,
    fun hnack => .inr (.inr (by rw [hmtu]; exact hnack))⟩
  rw [hmtu]
  refine hidle.imp_left fun hnone => ?_
  rw [hnone] at hsome
  exact Option.not_isSome_iff_eq_none.mp (Bool.eq_false_iff.mp hsome)

theorem Effect.announced {c c' : Context} {event : GattsEvent} (h : Effect c event c') :
    Announced c.state c' := by
  cases h with
  | mtu connId mtu => exact announced_mtu connId mtu c.state rfl
  | connected connId addr => exact ⟨fun _ => .inl rfl, nofun, fun _ => .inr (.inl rfl)⟩
  | disconnected connId addr => exact ⟨fun _ => .inl rfl, nofun, fun _ => .inr (.inl rfl)⟩
  | subscribed ev conn response hcccd => exact ⟨fun _ => .inl rfl, fun _ => .inl rfl, fun _ => .inl rfl⟩
  | unsubscribed ev conn response => exact ⟨fun _ => .inl rfl, nofun, fun _ => .inr (.inl rfl)⟩
  | stored ev => exact ⟨fun _ => .inl rfl, fun h => .inr ⟨h, rfl⟩, fun h => .inr (.inr h)⟩
  | confirmed status connId => exact ⟨.inr, fun h => .inr ⟨h, rfl⟩, fun _ => .inl rfl⟩
  | _ => exact .of_sameSession ⟨rfl, rfl, rfl, rfl, rfl, rfl⟩

/-- What a subscribed peer is indicated with is known from before its subscription. -/
structure State.Registered (s : State) : Prop where
  cccd : s.c2CccdHandle ≠ none → s.Ready
  subscribed : s.subscribed = true → s.Ready

theorem Effect.registered {c c' : Context} {event : GattsEvent} (h : Effect c event c')
    (hkeeps : event.KeepsService c.state) (hreg : c.state.Registered) : c'.state.Registered := by
  have hgo : ∀ {t : State}, (c.state.Ready → t.Ready) → t.c2CccdHandle = c.state.c2CccdHandle →
      (t.subscribed = true → c.state.subscribed = true) → t.Registered := fun hready hcccd hsub =>
    ⟨fun h => hready (hreg.cccd (hcccd ▸ h)), fun h => hready (hreg.subscribed (hsub h))⟩
  cases h with
  | gattIf status appId gattIf => exact hgo (fun h => ⟨nofun, h.2⟩) rfl id
  | c2Handle status attrHandle serviceHandle charUuid => exact hgo (fun h => ⟨h.1, nofun⟩) rfl id
  | c2CccdHandle status attrHandle serviceHandle hown =>
      exact ⟨fun _ => hkeeps hown, hreg.subscribed⟩
  | deleted status serviceHandle hown => exact absurd hown hkeeps
  | unregistered status serviceHandle hown => exact absurd hown hkeeps
  | mtu connId mtu =>
      obtain ⟨connection, hmtu, -, hsub⟩ := registerConnMtu_eq connId mtu c.state
      refine hgo (t := c.state.registerConnMtu connId mtu) ?_ ?_ fun h => hsub.symm.trans h
      · rw [hmtu]
        exact id
      · rw [hmtu]
  | connected connId addr => exact hgo (t := c.state.createConn connId addr) id rfl nofun
  | disconnected connId addr => exact hgo (t := c.state.deleteConn) id rfl nofun
  | subscribed ev conn response hcccd =>
      exact ⟨hreg.cccd, fun _ => hreg.cccd (by rw [hcccd]; nofun)⟩
  | unsubscribed ev conn response => exact ⟨hreg.cccd, nofun⟩
  | _ => exact ⟨hreg.cccd, hreg.subscribed⟩

/-! ### Iterations -/

/-- What an iteration of a pump leaves alone. -/
structure Kept (w w' : World β) : Prop where
  gattIf : w'.state.gattIf = w.state.gattIf
  c2Handle : w'.state.c2Handle = w.state.c2Handle
  c2CccdHandle : w'.state.c2CccdHandle = w.state.c2CccdHandle
  connection : w'.state.connection = w.state.connection
  connGen : w'.state.connGen = w.state.connGen
  notifyIncoming : w'.context.notifyProcessIncoming = w.context.notifyProcessIncoming
  notifyOutgoing : w'.context.notifyProcessOutgoing = w.context.notifyProcessOutgoing
  acknowledged : w.state.outNack = true → w'.state.outNack = true
  incoming : w.state.IncomingIdle → w'.state.IncomingIdle

theorem Kept.refl (w : World β) : Kept w w := ⟨rfl, rfl, rfl, rfl, rfl, rfl, rfl, id, id⟩

theorem Kept.subscribed {w w' : World β} (h : Kept w w') : w'.state.subscribed = w.state.subscribed := by
  rw [State.subscribed, h.connection, State.subscribed]

theorem Kept.registered {w w' : World β} (h : Kept w w') (hreg : w.state.Registered) :
    w'.state.Registered := by
  have hready : w'.state.Ready ↔ w.state.Ready := by
    rw [State.Ready, h.gattIf, h.c2Handle, State.Ready]
  constructor
  · rw [h.c2CccdHandle, hready]
    exact hreg.cccd
  · rw [h.subscribed, hready]
    exact hreg.subscribed

theorem kept_syncBtp (E : Btp β) (w : World β) : Kept w (w.syncBtp E).1 := by
  have hstate := World.syncBtp_state E w
  refine ⟨by rw [hstate], by rw [hstate], by rw [hstate], by rw [hstate], by rw [hstate], rfl, rfl, ?_, ?_⟩
  · rw [hstate]
    exact id
  · rw [hstate]
    exact fun hidle => hidle.imp_right fun hsynced => ⟨rfl, hsynced.2⟩

/-- A change of the other fields, or of the flag and the buffer in the given direction. -/
theorem Kept.set {w w' : World β} (h : Kept w w') {s : State} (btp : β) (ended : Option ErrorCode)
    (hs : ∃ inData outData outNack, s = { w'.state with inData, outData, outNack } ∧
      (w'.state.inData.isEmpty = true → inData.isEmpty = true) ∧
      (w'.state.outNack = true → outNack = true)) :
    Kept w (((w'.setState s).setBtp btp).setEnded ended) := by
  obtain ⟨inData, outData, outNack, rfl, hdata, hnack⟩ := hs
  exact ⟨h.gattIf, h.c2Handle, h.c2CccdHandle, h.connection, h.connGen, h.notifyIncoming, h.notifyOutgoing,
    fun hbefore => hnack (h.acknowledged hbefore),
    fun hidle => (h.incoming hidle).imp_right fun hsynced => ⟨hsynced.1, hdata hsynced.2⟩⟩

theorem kept_processIncoming (E : Btp β) (drv : Driver) (w : World β) :
    Kept w (processIncoming E drv w).finish.1 := by
  unfold processIncoming
  cases hconn : w.state.connection with
  | none => exact (Kept.refl w).set w.btp _ ⟨_, _, _, rfl, id, id⟩
  | some conn =>
      have hkept := kept_syncBtp E w
      dsimp only
      split
      · exact hkept.set _ _ ⟨_, _, _, rfl, id, id⟩
      split
      · exact hkept.set _ _ ⟨_, _, _, rfl, id, id⟩
      split
      · exact hkept.set _ _ ⟨_, _, _, rfl, id, id⟩
      · exact hkept.set _ _ ⟨.empty, _, _, rfl, fun _ => rfl, id⟩

theorem kept_processOutgoing (E : Btp β) (drv : Driver) (w : World β) :
    Kept w (processOutgoing E drv w).finish.1 := by
  unfold processOutgoing
  split
  · split
    · exact (Kept.refl w).set w.btp _ ⟨_, _, _, rfl, id, id⟩
    have hkept := kept_syncBtp E w
    dsimp only
    split
    · exact hkept.set _ _ ⟨_, _, _, rfl, id, id⟩
    split
    · exact hkept.set _ _ ⟨_, _, _, rfl, id, id⟩
    split
    · split
      · exact hkept.set _ _ ⟨_, _, _, rfl, id, id⟩
      · exact hkept.set _ _ ⟨_, _, true, rfl, id, fun _ => rfl⟩
    · exact hkept.set _ _ ⟨_, _, _, rfl, id, id⟩
  · exact (Kept.refl w).set w.btp _ ⟨_, _, _, rfl, id, id⟩

/-- An iteration that is not followed by another leaves nothing to do. -/
theorem processIncoming_waits (E : Btp β) (drv : Driver) (w : World β)
    (hwaits : (processIncoming E drv w).processed.waits = true) :
    (processIncoming E drv w).world.state.IncomingIdle := by
  unfold processIncoming at hwaits ⊢
  cases hconn : w.state.connection with
  | none => exact .inl hconn
  | some conn =>
      have hstate := World.syncBtp_state E w
      simp only [hconn] at hwaits ⊢
      split at hwaits
      · rename_i hempty
        rw [if_pos hempty]
        rw [hstate] at hempty ⊢
        exact .inr ⟨rfl, hempty⟩
      · split at hwaits
        · cases hwaits
        · split at hwaits <;> cases hwaits

theorem processOutgoing_waits (E : Btp β) (drv : Driver) (w : World β)
    (hready : w.state.subscribed = true → w.state.Ready)
    (hwaits : (processOutgoing E drv w).processed.waits = true) :
    w.state.subscribed = false ∨ (processOutgoing E drv w).world.state.outNack = true ∨
      (processOutgoing E drv w).calls.any Call.vain = true := by
  cases hsub : w.state.subscribed with
  | false => exact .inl rfl
  | true =>
      obtain ⟨hgattIf, hc2⟩ := hready hsub
      obtain ⟨gattIf, hgattIf⟩ := Option.ne_none_iff_exists'.mp hgattIf
      obtain ⟨c2Handle, hc2⟩ := Option.ne_none_iff_exists'.mp hc2
      cases hconn : w.state.connection with
      | none =>
          rw [State.subscribed, hconn] at hsub
          cases hsub
      | some conn =>
          have hsubscribed : ¬ conn.subscribed = false := by
            rw [State.subscribed, hconn] at hsub
            exact Bool.eq_false_iff.not.mpr (not_not.mpr hsub)
          unfold processOutgoing at hwaits ⊢
          simp only [hgattIf, hc2, hconn, if_neg hsubscribed] at hwaits ⊢
          split at hwaits
          · rename_i hnack
            rw [if_pos hnack]
            exact .inr (.inl hnack)
          · rename_i hnack
            rw [if_neg hnack]
            split at hwaits
            · cases hwaits
            · rename_i btp frame _
              split at hwaits
              · split at hwaits <;> cases hwaits
              · rename_i hlength
                have hempty : frame.toList = [] := by
                  apply BoundedVec.length_eq_zero_iff.mp
                  omega
                rw [if_neg hlength]
                refine .inr (.inr ?_)
                rw [List.any_append, hempty]
                exact Bool.or_true _

/-- The flag is up after an event only for an indication that the event leaves unacknowledged. -/
theorem flagged_onGattsEvent (cfg : Config) (drv : Driver) (gattIf : GattInterface) (event : GattsEvent)
    (w : World β) {unacknowledged : Bool} (hflagged : w.state.outNack = true → unacknowledged = true)
    (hnack : (onGattsEvent cfg drv gattIf event w).world.state.outNack = true) :
    event.unacknowledged w.state unacknowledged = true := by
  by_cases hmatters : event.Matters
  · cases event with
    | peerConnected connId addr =>
        rw [peerConnected_state] at hnack
        split at hnack
        · cases hnack
        · rename_i hconn
          rw [GattsEvent.unacknowledged, hflagged hnack, Option.isSome_iff_ne_none.mpr hconn]
          rfl
    | peerDisconnected connId addr =>
        rw [peerDisconnected_state] at hnack
        split at hnack
        · exact hflagged hnack
        · exact hflagged hnack
    | confirm status connId =>
        rw [confirm_state] at hnack
        cases status with
        | ok => cases hnack
        | failed code => exact hflagged hnack
    | _ => exact hmatters.elim
  · have hkept := (gatts_frame cfg drv gattIf hmatters w).2
    have hstill := hflagged (hkept.symm.trans hnack)
    cases event with
    | peerConnected connId addr => exact absurd trivial hmatters
    | confirm status connId => exact absurd trivial hmatters
    | _ => exact hstill

/-- An iteration raises the flag for what it submits. -/
theorem flagged_processOutgoing (E : Btp β) (drv : Driver) (w : World β) {unacknowledged : Bool}
    (hflagged : w.state.outNack = true → unacknowledged = true)
    (hnack : (processOutgoing E drv w).world.state.outNack = true) :
    (unacknowledged || (processOutgoing E drv w).calls.any Call.submitted) = true := by
  rcases (outgoing_cases E drv w).2 with ⟨-, hsame⟩ | ⟨hone, -, -, -⟩
  · rw [hflagged (hsame.symm.trans hnack)]
    exact Bool.true_or _
  · have hsubmitted : ∃ call ∈ (processOutgoing E drv w).calls, call.submitted = true :=
      List.countP_pos_iff.mp (by omega)
    rw [List.any_eq_true.mpr hsubmitted]
    exact Bool.or_true _

/-! ### The invariant -/

/-- Nothing is missed, unless a signal is raised or owed. -/
structure Tasks.Inv (T : Tasks β) : Prop where
  registered : T.world.state.Registered
  incoming : Alert (T.incomingWaits = true)
    (T.world.context.notifyProcessIncoming = true ∨ T.owesIncoming = true) T.world.state.IncomingIdle
  outgoing : Alert (T.outgoingWaits = true)
    (T.world.context.notifyProcessOutgoing = true ∨ T.owesOutgoing = true)
    (T.OutgoingIdle (T.world.state.outNack = true))
  flagged : T.world.state.outNack = true → T.unacknowledged = true

theorem Tasks.inv_gatts (cfg : Config) (E : Btp β) {T : Tasks β} (hT : T.Inv) (hquiet : T.Quiet)
    (gattIf : GattInterface) {event : GattsEvent} (hkeeps : event.KeepsService T.world.state)
    (drv : Driver) : (T.move cfg E (.gatts gattIf event drv)).Inv := by
  have heffect := effect_onGattsEvent cfg drv gattIf event T.world.quiet
  have hannounced := heffect.announced
  refine ⟨heffect.registered hkeeps hT.registered, ?_, ?_, ?_⟩
  · refine hT.incoming.keep id (fun h => .inl (h.resolve_right ?_)) fun hidle => ?_
    · rw [hquiet.1]
      nofun
    · exact (hannounced.incoming hidle).imp_left .inr
  · refine hT.outgoing.keep id (fun h => .inl (h.resolve_right ?_)) fun hidle => ?_
    · rw [hquiet.2]
      nofun
    rw [or_iff_not_imp_left, not_or]
    rintro ⟨-, hsilent⟩
    rw [Tasks.OutgoingIdle, or_iff_not_imp_left, Bool.not_eq_false]
    intro hsub
    obtain ⟨hbefore, hgen⟩ := (hannounced.subscribed hsub).resolve_left hsilent
    rcases hidle with hunsub | hnack | hasked
    · cases hunsub.symm.trans hbefore
    · have hstill := (hannounced.acknowledged hnack).resolve_left hsilent
      exact .inl (hstill.resolve_left fun hunsub => by cases hunsub.symm.trans hsub)
    · exact .inr (hasked.trans (congrArg some hgen.symm))
  · exact flagged_onGattsEvent cfg drv gattIf event T.world.quiet hT.flagged

theorem Tasks.inv_incoming (cfg : Config) (E : Btp β) {T : Tasks β} (hT : T.Inv) (drv : Driver) :
    (T.move cfg E (.incoming drv)).Inv := by
  have hkept := kept_processIncoming E drv T.world
  refine ⟨hkept.registered hT.registered, .of_idle ?_, ?_, fun hnack => ?_⟩
  · exact processIncoming_waits E drv T.world
  · refine hT.outgoing.keep id (fun h => h.imp_left hkept.notifyOutgoing.trans) fun hidle => .inr ?_
    rw [Tasks.OutgoingIdle] at hidle ⊢
    refine hidle.imp hkept.subscribed.trans fun h => h.imp hkept.acknowledged fun hasked => ?_
    exact hasked.trans (congrArg some hkept.connGen.symm)
  · exact hT.flagged ((incoming_frame E drv T.world).2.2.symm.trans hnack)

theorem Tasks.inv_outgoing (cfg : Config) (E : Btp β) {T : Tasks β} (hT : T.Inv) (drv : Driver) :
    (T.move cfg E (.outgoing drv)).Inv := by
  have hkept := kept_processOutgoing E drv T.world
  refine ⟨hkept.registered hT.registered, ?_, .of_idle fun hwaits => ?_, ?_⟩
  · exact hT.incoming.keep id (fun h => h.imp_left hkept.notifyIncoming.trans) fun h =>
      .inr (hkept.incoming h)
  · have hidle := processOutgoing_waits E drv T.world hT.registered.subscribed hwaits
    refine hidle.imp hkept.subscribed.trans fun h => h.imp id fun hvain => ?_
    exact (if_pos hvain).trans (congrArg some hkept.connGen.symm)
  · exact flagged_processOutgoing E drv T.world hT.flagged

/-! ### Runs -/

theorem Tasks.inv_move (cfg : Config) (E : Btp β) (T : Tasks β) (m : Move β) (hT : T.Inv)
    (hscheduled : Scheduled T m) : (T.move cfg E m).Inv := by
  cases m with
  | gap event drv =>
      rw [Tasks.move, onGapEvent_world]
      exact hT
  | gatts gattIf event drv => exact Tasks.inv_gatts cfg E hT hscheduled.1 gattIf hscheduled.2 drv
  | signalIncoming => exact ⟨hT.registered, .of_woken (.inl rfl), hT.outgoing, hT.flagged⟩
  | signalOutgoing => exact ⟨hT.registered, hT.incoming, .of_woken (.inl rfl), hT.flagged⟩
  | incoming drv => exact Tasks.inv_incoming cfg E hT drv
  | outgoing drv => exact Tasks.inv_outgoing cfg E hT drv
  | wakeIncoming => exact ⟨hT.registered, .of_awake nofun, hT.outgoing, hT.flagged⟩
  | wakeOutgoing => exact ⟨hT.registered, hT.incoming, .of_awake nofun, hT.flagged⟩
  | outgoingData => exact ⟨hT.registered, hT.incoming, .of_awake nofun, hT.flagged⟩
  | matter btp => exact ⟨hT.registered, hT.incoming, hT.outgoing, hT.flagged⟩

theorem Tasks.inv_run (cfg : Config) (E : Btp β) (c : Context) (btp : β) {moves : List (Move β)}
    (hrun : Along (Tasks.step cfg E) Scheduled (.fresh c btp) moves) :
    (after (Tasks.step cfg E) (.fresh c btp) moves).Inv :=
  invariant_after (I := Tasks.Inv) (Tasks.inv_move cfg E)
    ⟨⟨fun h => absurd rfl h, nofun⟩, .of_awake nofun, .of_awake nofun, nofun⟩ hrun

/-- **Between the handlers, no wake-up is lost.** -/
theorem Tasks.Inv.missesNothing {T : Tasks β} (hT : T.Inv) (hquiet : T.Quiet) : T.MissesNothing := by
  constructor
  · intro hwaits hsignal
    refine hT.incoming.elim hwaits fun hwoken => ?_
    rw [hsignal, hquiet.1] at hwoken
    exact hwoken.elim nofun nofun
  · intro hwaits hsignal
    have hidle := hT.outgoing.elim hwaits fun hwoken => by
      rw [hsignal, hquiet.2] at hwoken
      exact hwoken.elim nofun nofun
    exact hidle.imp_right fun h => h.imp_left hT.flagged

end EspIdfMatter.Bluedroid
