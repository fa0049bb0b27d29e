import EspIdfMatter.Central.Completion
import EspIdfMatter.Central.Rerun
import EspIdfMatter.Duplex.Settling

/-! From the setup to the link. What `run` of the client has in place when it goes over to its pumps, and what
the hooks of the peripheral have recorded of the connection by then, is what the two ends go on from. -/

namespace EspIdfMatter.Duplex

open Library Library.Machine Central

variable {β γ : Type}

/-! ### What `run` leaves alone -/

/-- Only the address of the peer is recorded by `run` itself. -/
theorem advance_state (addr : BtAddr) (d : Answers) (S : Client β) :
    ∃ peer, (S.advance addr d).1.state = { S.state with peer } := by
  have hsame : ∀ C : Client β, C.state = S.state → ∃ peer, C.state = { S.state with peer } :=
    fun C hC => ⟨S.state.peer, hC⟩
  have hproceed (C : Client β) {ε : Type} (result : Except ε Unit) (phase : Phase) :
      (C.proceed result phase).state = C.state :=
    congrArg Context.state (C.proceed_context result phase)
  unfold Client.advance
  cases S.phase with
  | start => exact ⟨addr, hproceed _ d.start _⟩
  | wait wait blocked =>
      cases blocked with
      | false =>
          apply hsame
          dsimp only
          split
          · rfl
          · rfl
      | true =>
          apply hsame
          dsimp only
          split
          · rfl
          · rfl
  | connect =>
      apply hsame
      dsimp only
      split
      · rfl
      · exact hproceed S d.connect _
  | discoverServices conn => exact hsame _ (hproceed S d.discoverServices _)
  | discoverCharacteristics conn startHandle endHandle => exact hsame _ (hproceed S d.discoverCharacteristics _)
  | _ =>
      apply hsame
      dsimp only
      repeat' split
      all_goals rfl

/-- The pumps are what comes after the engine was told that it is the initiator. -/
theorem advance_pumping {addr : BtAddr} {S : Client β} {conn c1Val : Handle}
    (h : (S.advance addr .succeeding).1.phase = .pumping conn c1Val) (hnot : S.phase ≠ .pumping conn c1Val) :
    S.phase = .setInitiator conn c1Val ∧
      S.advance addr .succeeding = ({ S with phase := .pumping conn c1Val }, [.setInitiator]) := by
  unfold Client.advance at h ⊢
  cases hphase : S.phase with
  | setInitiator conn' c1Val' =>
      rw [hphase] at h
      cases h
      exact ⟨rfl, rfl⟩
  | pumping conn' c1Val' =>
      rw [hphase] at h
      exact absurd h hnot
  | wait wait blocked =>
      rw [hphase] at h
      cases blocked with
      | false =>
          dsimp only at h
          split at h
          · cases wait <;> cases h
          · cases h
      | true =>
          dsimp only at h
          split at h
          · cases h
          · rw [hphase] at h
            cases h
  | stopped =>
      rw [hphase] at h
      cases hphase.symm.trans h
  | readConnHandle | readRange conn' | readChars conn' | subscribe conn' c1Val' c2Val' | checkFailed conn' c1Val' =>
      rw [hphase] at h
      dsimp only at h
      repeat' split at h
      all_goals cases h
  | start | connect | discoverServices conn' | discoverCharacteristics conn' startHandle endHandle =>
      rw [hphase] at h
      cases h

/-- The stage before the last. -/
theorem found_of_setInitiator {peer : Peer} {conn c1Val : Handle} {found : Found} {events : List Event}
    (h : Stage peer (.setInitiator conn c1Val) found events) :
    events = [] ∧ (found.c1Val, found.c2Val) = charVals peer.offered := by
  cases h with
  | setInitiator hvals hcccd => exact ⟨rfl, hvals.symm⟩

/-! ### What the hooks leave alone -/

def Notifies : Event → Prop
  | .gattc (.notify _ _) => True
  | _ => False

theorem onEvent_free {event : Event} {c c' : Context} (h : onEvent event c = some c')
    (hfree : c.state.outInflight = false) : c'.state.outInflight = false := by
  cases event with
  | host event => cases event <;> cases h <;> exact hfree
  | gap event =>
      cases event with
      | connect connHandle status found attMtu => cases status <;> cases h <;> exact hfree
      | mtu connHandle value =>
          cases h
          simp only [onGapEvent, Context.modify]
          split
          · exact hfree
          · exact hfree
      | _ =>
          cases h
          exact hfree
  | gattc event =>
      cases event with
      | service service =>
          cases service with
          | none =>
              cases h
              exact hfree
          | some service =>
              cases h
              split
              · exact hfree
              · exact hfree
      | characteristic chr =>
          cases chr with
          | none =>
              cases h
              exact hfree
          | some chr =>
              cases h
              simp only [Context.modify]
              repeat' split
              all_goals exact hfree
      | writeComplete attrHandle status =>
          have hwrite : ∀ cccd, (onWriteComplete attrHandle status cccd c).state.outInflight = false := by
            intro cccd
            unfold onWriteComplete
            repeat' split
            all_goals first
              | exact hfree
              | rfl
          unfold onEvent onGattcEvent at h
          dsimp only at h
          split at h
          · cases h
            exact hwrite none
          · obtain ⟨cccd, -, rfl⟩ := Option.map_eq_some_iff.mp h
            exact hwrite (some cccd)
      | notify attrHandle data =>
          cases h
          split
          · exact (notify_frame data c.state).2.2.trans hfree
          · exact hfree
      | readComplete =>
          cases h
          exact hfree

theorem reports_silent (peer : Peer) (action : Central.Action) :
    ∀ event ∈ peer.reports action, ¬ Notifies event := by
  unfold Peer.reports
  split
  · exact List.forall_mem_singleton.mpr id
  · unfold Peer.serviceReports
    refine List.forall_mem_append.mpr ⟨?_, List.forall_mem_singleton.mpr id⟩
    exact List.forall_mem_map.mpr fun _ _ => id
  · unfold Peer.charReports
    refine List.forall_mem_append.mpr ⟨?_, List.forall_mem_singleton.mpr id⟩
    exact List.forall_mem_map.mpr fun _ _ => id
  · exact List.forall_mem_singleton.mpr id
  · exact List.forall_mem_singleton.mpr id
  · exact List.forall_mem_nil _

/-! ### The setup -/

/-- A step of the setup itself: the driver does what it is asked for, the link is not lost, no indication comes,
and the pumps do not run yet. -/
def SetsUp : Setup.Step β → Prop
  | .aside event => Setup.Idle event ∧ ¬ Notifies event
  | .incoming => False
  | .outgoing _ => False
  | s => s.Succeeds

theorem SetsUp.succeeds {s : Setup.Step β} (h : SetsUp s) : s.Succeeds := by
  cases s with
  | aside event => exact h.1
  | incoming => exact h.elim
  | outgoing result => exact h.elim
  | run answers => exact h
  | tell => exact h
  | matter btp => exact h

/-- The setup is on its way, or it has come to the pumps with these handles. -/
structure HandsOver (peer : Peer) (c1Val c2Val : Handle) (S : Setup β) : Prop where
  empty : S.client.state.inData = .empty
  free : S.client.state.outInflight = false
  silent : ∀ event ∈ S.events, ¬ Notifies event
  course : S.Going peer ∨ S.client.world.aborted = false ∧ S.client.world.ended = none ∧ S.events = [] ∧
    S.client.phase = .pumping peer.conn c1Val ∧ S.client.state.c1Val = some c1Val ∧
    S.client.state.c2Val = some c2Val

section Steps

variable {peer : Peer} {E : Btp β} {addr : BtAddr} {c1Val c2Val : Handle} {S : Setup β}

/-- The buffer stays empty and the client free. -/
theorem HandsOver.buffers (h : HandsOver peer c1Val c2Val S) {s : Setup.Step β} (hs : SetsUp s) :
    (S.step peer E addr s).1.client.state.inData = .empty ∧
      (S.step peer E addr s).1.client.state.outInflight = false ∧
      ∀ event ∈ (S.step peer E addr s).1.events, ¬ Notifies event := by
  -- what a step of the client does to its buffers, and what it makes the host report
  have hclient : ∀ input : Input β, (∀ event, input = .event event → ¬ Notifies event) →
      input ≠ .incoming → (∀ result, input ≠ .outgoing result) →
      (S.client.step E addr input).1.state.inData = .empty ∧
        (S.client.step E addr input).1.state.outInflight = false := by
    intro input hevent hincoming houtgoing
    have hmoves := S.client.moves_step E addr input
    generalize S.client.step E addr input = next at hmoves ⊢
    cases hmoves with
    | nothing => exact ⟨h.empty, h.free⟩
    | @event event context _ _ hcontext =>
        refine ⟨?_, onEvent_free hcontext h.free⟩
        refine (onEvent_inData hcontext fun attrHandle data hnotify => ?_).trans h.empty
        have hnotifies : Notifies event := by
          rw [hnotify]
          exact trivial
        exact absurd hnotifies (hevent event rfl)
    | overflow => exact ⟨h.empty, h.free⟩
    | run d =>
        obtain ⟨peer, hstate⟩ := advance_state addr d S.client
        rw [hstate]
        exact ⟨h.empty, h.free⟩
    | incoming => exact absurd rfl hincoming
    | outgoing result => exact absurd rfl (houtgoing result)
    | matter => exact ⟨h.empty, h.free⟩
  have hreports : ∀ (events : List Event) (actions : List Central.Action),
      (∀ event ∈ events, ¬ Notifies event) →
      ∀ event ∈ events ++ actions.flatMap peer.reports, ¬ Notifies event := by
    intro events actions hevents
    refine List.forall_mem_append.mpr ⟨hevents, fun event hmem => ?_⟩
    obtain ⟨action, -, hreported⟩ := List.mem_flatMap.mp hmem
    exact reports_silent peer action event hreported
  cases s with
  | run answers =>
      obtain ⟨hdata, hfree⟩ := hclient (.run answers) (fun _ => nofun) nofun fun _ => nofun
      exact ⟨hdata, hfree, hreports _ _ h.silent⟩
  | tell =>
      have htell : S.step peer E addr .tell = S.tell peer E addr := rfl
      rw [htell]
      unfold Setup.tell
      split
      · exact ⟨h.empty, h.free, h.silent⟩
      split
      · exact ⟨h.empty, h.free, h.silent⟩
      · rename_i event events hevents
        obtain ⟨hsilent, hrest⟩ := List.forall_mem_cons.mp (hevents ▸ h.silent)
        obtain ⟨hdata, hfree⟩ := hclient (.event event)
          (fun other hother => by cases hother; exact hsilent) nofun fun _ => nofun
        exact ⟨hdata, hfree, hreports _ _ hrest⟩
  | aside event =>
      obtain ⟨hdata, hfree⟩ := hclient (.event event)
        (fun other hother => by cases hother; exact hs.2) nofun fun _ => nofun
      exact ⟨hdata, hfree, hreports _ _ h.silent⟩
  | incoming => exact hs.elim
  | outgoing result => exact hs.elim
  | matter btp =>
      obtain ⟨hdata, hfree⟩ := hclient (.matter btp) (fun _ => nofun) nofun fun _ => nofun
      exact ⟨hdata, hfree, hreports _ _ h.silent⟩

/-- **Every step of the setup** keeps to its course. -/
theorem HandsOver.step (hvals : charVals peer.offered = (some c1Val, some c2Val))
    (h : HandsOver peer c1Val c2Val S) {s : Setup.Step β} (hs : SetsUp s) :
    HandsOver peer c1Val c2Val (S.step peer E addr s).1 := by
  obtain ⟨hdata, hfree, hsilent⟩ := h.buffers hs
  refine ⟨hdata, hfree, hsilent, ?_⟩
  rcases h.course with hgoing | ⟨hrunning, hended, hevents, hphase, hc1, hc2⟩
  · by_cases htell : s = .tell
    · subst htell
      exact .inl (hgoing.tell E addr).1
    by_cases hrun : ∃ answers, s = .run answers
    · obtain ⟨answers, rfl⟩ := hrun
      obtain rfl : answers = .succeeding := hs
      rcases hgoing.run E addr with hthrough | ⟨hnext, -⟩
      · right
        have hout : peer.outcome = .pumping c1Val := Peer.outcome_of_vals hvals
        have hrun : S.client.step E addr (.run .succeeding) = S.client.advance addr .succeeding :=
          Setup.step_run_eq hgoing.running hgoing.ended .succeeding
        have hpumping : (S.client.advance addr .succeeding).1.phase = .pumping peer.conn c1Val := by
          rw [Setup.Through, hout] at hthrough
          rw [← hrun]
          exact hthrough
        have hnot : S.client.phase ≠ .pumping peer.conn c1Val := by
          intro hphase
          have hstage := hgoing.stage
          rw [hphase] at hstage
          cases hstage
        obtain ⟨hlast, hadvance⟩ := advance_pumping hpumping hnot
        obtain ⟨hevents, hfound⟩ := found_of_setInitiator (hlast ▸ hgoing.stage)
        rw [hvals] at hfound
        have hnext : (S.step peer E addr (.run .succeeding)).1 =
            ⟨{ S.client with phase := .pumping peer.conn c1Val }, []⟩ := by
          show (S.goOn peer (S.client.step E addr (.run .succeeding))).1 = _
          rw [hrun, hadvance, Setup.goOn, hevents]
          rfl
        rw [hnext]
        exact ⟨hgoing.running, hgoing.ended, rfl, rfl, congrArg Prod.fst hfound, congrArg Prod.snd hfound⟩
      · exact .inl hnext
    · exact .inl (hgoing.others E addr hs.succeeds ⟨htell, fun answers hanswers => hrun ⟨answers, hanswers⟩⟩).1
  · right
    have hgo : ¬ S.client.world.aborted = true := by
      rw [hrunning]
      exact Bool.false_ne_true
    have hstarted : S.client.phase ≠ .start := by
      rw [hphase]
      exact nofun
    cases s with
    | run answers =>
        have hadvance : S.client.advance addr answers = (S.client, []) := by
          rw [Client.advance, hphase]
        have hsame : (S.step peer E addr (.run answers)).1 = S := by
          show (S.goOn peer (S.client.step E addr (.run answers))).1 = S
          rw [Setup.step_run_eq hrunning hended, hadvance, Setup.goOn_nil]
        rw [hsame]
        exact ⟨hrunning, hended, hevents, hphase, hc1, hc2⟩
    | tell =>
        have hsame : (S.step peer E addr .tell).1 = S := by
          show (S.tell peer E addr).1 = S
          rw [Setup.tell, if_neg hstarted, hevents]
        rw [hsame]
        exact ⟨hrunning, hended, hevents, hphase, hc1, hc2⟩
    | aside event =>
        obtain ⟨context, hevent, hfound, -⟩ := onEvent_idle hs.1 S.client.world.context
        have hnext : (S.step peer E addr (.aside event)).1 = ⟨{ S.client with
            world := { S.client.world with context }
            outstanding := event.completes S.client.outstanding }, S.events⟩ :=
          Setup.goOn_event peer E addr hrunning hstarted hevent
        rw [hnext]
        exact ⟨hrunning, hended, hevents, hphase, (congrArg Found.c1Val hfound).trans hc1,
          (congrArg Found.c2Val hfound).trans hc2⟩
    | incoming => exact hs.elim
    | outgoing result => exact hs.elim
    | matter btp =>
        have hmatter : S.client.step E addr (.matter btp) =
            ({ S.client with world := S.client.world.setBtp btp }, []) := by
          unfold Client.step
          rw [if_neg hgo]
        have hnext : (S.step peer E addr (.matter btp)).1 =
            ⟨{ S.client with world := S.client.world.setBtp btp }, S.events⟩ := by
          show (S.goOn peer (S.client.step E addr (.matter btp))).1 = _
          rw [hmatter, Setup.goOn_nil]
        rw [hnext]
        exact ⟨hrunning, hended, hevents, hphase, hc1, hc2⟩

end Steps

theorem handsOver_new {peer : Peer} (hcccd : peer.CccdFollows) (c1Val c2Val : Handle) (btp : β) :
    HandsOver peer c1Val c2Val (.new btp) where
  empty := rfl
  free := rfl
  silent := List.forall_mem_singleton.mpr id
  course := .inl ⟨rfl, rfl, .start, hcccd⟩

/-! ### The peripheral -/

/-- A peripheral that a peer has just connected to. -/
structure Joined (c2Val : Handle) (w : Nimble.World γ) : Prop where
  ended : w.ended = none
  indicates : w.c2ValHandle = c2Val
  free : w.outNack = false
  empty : w.state.inData = .empty
  tracked : w.state.connection.isSome = true

/-- The connection is there, and nothing has come or gone over it. -/
theorem joined_after (F : Btp γ) {w : Nimble.World γ} (hended : w.ended = none) (conn : Handle)
    (found : Except Nimble.BleError BtAddr) (attMtu : Except Nimble.BleError UInt16)
    {events : List Nimble.Event} (hevents : ∀ event ∈ events, PeripheralBackground event) :
    Joined w.c2ValHandle (after (Nimble.step F) w
      (.event (.gap (.connect conn (.ok ()) found attMtu)) :: events.map .event)) := by
  rw [after_cons]
  have hconnected : Joined w.c2ValHandle
      (Nimble.step F w (.event (.gap (.connect conn (.ok ()) found attMtu)))).1 := ⟨hended, rfl, rfl, rfl, rfl⟩
  generalize (Nimble.step F w (.event (.gap (.connect conn (.ok ()) found attMtu)))).1 = w' at hconnected ⊢
  induction events generalizing w' with
  | nil => exact hconnected
  | cons event events ih =>
      obtain ⟨hevent, hrest⟩ := List.forall_mem_cons.mp hevents
      obtain ⟨hdata, hnack, hc2⟩ := exec_of_background hevent w'
      have htracked := exec_tracked hevent w'
      have hgoes := Nimble.exec_ended (Nimble.hook event) w'
      rw [List.map_cons, after_cons]
      apply ih hrest
      exact ⟨hgoes.trans hconnected.ended, hc2.trans hconnected.indicates, hnack.trans hconnected.free,
        hdata.trans hconnected.empty, htracked.trans hconnected.tracked⟩

/-! ### Both ends -/

/-- **The setup leads to the link.** With a peer that offers both characteristics, however the setup has gone so
far, a bounded number of rounds brings the client to its pumps, and then it and a peripheral that it has connected
to are as the link needs them: both know the handles that the other one uses, and nothing is on its way. -/
theorem setup_pairs (peer : Peer) (E : Btp β) (F : Btp γ) (addr : BtAddr) (btp : β) {c1Val c2Val : Handle}
    (hvals : charVals peer.offered = (some c1Val, some c2Val)) (hcccd : c2Val ≠ 0xFFFF)
    (hdistinct : c1Val ≠ c2Val + 1) (steps : List (Setup.Step β)) (hsteps : ∀ s ∈ steps, SetsUp s) {k : Nat}
    (hk : Setup.effort peer ≤ k) {w : Nimble.World γ} (hended : w.ended = none) (hc2 : w.c2ValHandle = c2Val)
    (found : Except Nimble.BleError BtAddr) (attMtu : Except Nimble.BleError UInt16)
    (events : List Nimble.Event) (hevents : ∀ event ∈ events, PeripheralBackground event) :
    let S := after (Setup.step peer E addr) (after (Setup.step peer E addr) (.new btp) steps)
      (List.replicate k Setup.round).flatten
    S.client.phase = .pumping peer.conn c1Val ∧
      Paired c1Val c2Val
        { client := S.client.world
          peripheral := after (Nimble.step F) w
            (.event (.gap (.connect peer.conn (.ok ()) found attMtu)) :: events.map .event)
          requests := []
          responses := []
          indications := []
          confirmations := 0 } := by
  intro S
  have hfollows : peer.CccdFollows := (Peer.cccdFollows_iff hvals).mpr hcccd
  have hout : peer.outcome = .pumping c1Val := Peer.outcome_of_vals hvals
  have hphase : S.client.phase = .pumping peer.conn c1Val := by
    have hbound : Setup.effort peer - 1 < k := by
      rw [Setup.effort] at hk ⊢
      omega
    have hthrough : S.Through peer :=
      ((Setup.within_new hfollows btp).run fun s hs => (hsteps s hs).succeeds).rounds hbound
    rwa [Setup.Through, hout] at hthrough
  have hrounds : ∀ s ∈ (List.replicate k (Setup.round : List (Setup.Step β))).flatten, SetsUp s := by
    have hround : ∀ s ∈ (Setup.round : List (Setup.Step β)), SetsUp s := by
      rw [Setup.round, List.forall_mem_cons, List.forall_mem_singleton]
      exact ⟨trivial, rfl⟩
    intro s hs
    obtain ⟨round, hreplicated, hmem⟩ := List.mem_flatten.mp hs
    rw [List.eq_of_mem_replicate hreplicated] at hmem
    exact hround s hmem
  have hover : HandsOver peer c1Val c2Val S := by
    rw [show S = after (Setup.step peer E addr) (.new btp)
      (steps ++ (List.replicate k Setup.round).flatten) from (after_append _ _ _ _).symm]
    refine invariant_after (I := HandsOver peer c1Val c2Val) (G := fun _ s => SetsUp s)
      (fun S s hS hs => hS.step hvals hs) (handsOver_new hfollows c1Val c2Val btp) (along_of_forall ?_)
    exact List.forall_mem_append.mpr ⟨hsteps, hrounds⟩
  have hjoined := joined_after F hended peer.conn found attMtu hevents
  rcases hover.course with hgoing | ⟨hrunning, hended', -, -, hc1, hc2'⟩
  · have hstage := hgoing.stage
    rw [hphase] at hstage
    cases hstage
  · refine ⟨hphase, ⟨⟨?_, ?_, hcccd, ⟨rfl, rfl, rfl, rfl⟩⟩, hc1, hdistinct, hover.free, hjoined.tracked⟩⟩
    · exact ⟨hrunning, hended', hc2', hover.empty⟩
    · exact ⟨hjoined.ended, hjoined.indicates.trans hc2, hjoined.free, hjoined.empty⟩

/-- The client is told of the first service. -/
def settingUp : List (Setup.Step (List Buffer)) :=
  [.run .succeeding, .matter [], .tell, .run .succeeding, .run .succeeding, .tell, .run .succeeding,
    .run .succeeding, .run .succeeding, .aside (.gap (.mtu 1 100)), .tell]

theorem setup_pairs_settingUp :
    let S := after (Setup.step Setup.somePeer .queue ⟨.replicate 6 7⟩)
      (after (Setup.step Setup.somePeer .queue ⟨.replicate 6 7⟩) (.new []) settingUp)
      (List.replicate 57 Setup.round).flatten
    S.client.phase = .pumping 1 12 ∧
      Paired 12 14
        { client := S.client.world
          peripheral := after (Nimble.step .queue) (.fresh .new 14 [])
            [.event (.gap (.connect 1 (.ok ()) (.error ⟨0⟩) (.error ⟨0⟩))),
              .event (.gatts (.subscriptionChanged 1 14 true))]
          requests := []
          responses := []
          indications := []
          confirmations := 0 } := by
  have hsteps : ∀ s ∈ settingUp, SetsUp s := by
    simp only [settingUp, List.forall_mem_cons]
    exact ⟨rfl, trivial, trivial, rfl, rfl, trivial, rfl, rfl, rfl, ⟨trivial, id⟩, trivial,
      List.forall_mem_nil _⟩
  have hevents : ∀ event ∈ [Nimble.Event.gatts (.subscriptionChanged 1 14 true)], PeripheralBackground event :=
    List.forall_mem_singleton.mpr trivial
  exact setup_pairs Setup.somePeer .queue .queue ⟨.replicate 6 7⟩ [] rfl (show (14 : Handle) ≠ 0xFFFF by decide)
    (show (12 : Handle) ≠ 14 + 1 by decide) settingUp hsteps (show 57 ≤ 57 by decide) rfl rfl (.error ⟨0⟩)
    (.error ⟨0⟩) _ hevents

end EspIdfMatter.Duplex
