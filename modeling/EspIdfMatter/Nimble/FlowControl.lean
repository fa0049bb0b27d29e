import EspIdfMatter.Nimble.Interleaving
import EspIdfMatter.Nimble.Isolation

/-! Flow control of the indications: `out_nack` says exactly whether one awaits its completion. The
invariant follows the host task through its hooks, since the flag is behind while a hook that clears
it is under way. -/

namespace EspIdfMatter.Nimble

open Library

variable {β : Type}

/-! ### The invariant -/

/-- A hook that leaves `out_nack` alone, and neither starts nor ends a connection. -/
inductive Hook.Calm : Hook → Prop where
  | ret (code : UInt8) : Calm (.ret code)
  | lock {update : State → State} {next : State → Hook}
      (hupdate : ∀ s, (update s).connection.isSome = s.connection.isSome)
      (hnext : ∀ s, Calm (next s)) : Calm (.lock update next)
  | storeC2 {handle : Handle} {next : Hook} (hnext : Calm next) : Calm (.storeC2 handle next)
  | loadC2 {next : Handle → Hook} (hnext : ∀ c2, Calm (next c2)) : Calm (.loadC2 next)
  | signalIncoming {next : Hook} (hnext : Calm next) : Calm (.signalIncoming next)
  | signalOutgoing {next : Hook} (hnext : Calm next) : Calm (.signalOutgoing next)

/-- A hook that is about to clear `out_nack`. -/
def Hook.Clearing (h : Hook) : Prop := ∃ next, h = .storeNack false next ∧ next.Calm

def System.Tracked (S : System β) : Prop := S.world.state.connection.isSome = true

/-- The flag is up exactly while an indication awaits its completion on the tracked connection. -/
def System.Exact (S : System β) : Prop :=
  S.world.outNack = true ↔ S.Tracked ∧ S.awaiting ≠ []

/-- What holds of the pump as long as the host task is not about to clear the flag. -/
def System.PumpOk (S : System β) : Prop :=
  match S.pump with
  | .start | .advertised => S.Exact
  | .checkNack _ => S.Tracked ∧ S.Exact
  | .loadHandle _ | .produce _ _ | .markNack _ _ _ =>
      S.Tracked ∧ S.world.outNack = false ∧ S.awaiting = []
  | .send _ _ _ => S.Tracked ∧ S.world.outNack = true ∧ S.awaiting = []
  | .indicating id nested =>
      S.Tracked ∧ (S.awaiting = [] ∨ S.awaiting = [id]) ∧
        (nested.Calm ∧ S.Exact ∨ nested.Clearing ∧ S.awaiting = [])
  | .clearNack => S.Tracked ∧ S.awaiting = []

/-- What holds of the pump while a completion is about to clear the flag: it sends nothing new. -/
def System.PumpHeld (S : System β) : Prop :=
  match S.pump with
  | .start | .advertised => S.world.ended = none → S.world.outNack = true
  | .checkNack _ => S.world.outNack = true
  | .indicating _ nested => nested.Calm ∧ S.world.outNack = true
  | .clearNack => True
  | _ => False

/-- The phases of the host task. -/
inductive Inv (S : System β) : Prop where
  | calm (hhost : S.host.Calm) (hlinked : S.linked = S.world.state.connection.isSome)
      (hone : S.awaiting.length ≤ 1) (hpump : S.PumpOk)
  | connecting (peer : BtAddr) (connHandle : Handle) (mtu : Option UInt16) (next : Hook)
      (hhost : S.host = .lock (State.connect peer connHandle mtu) fun _ => next)
      (hnext : next.Clearing) (hlinked : S.linked = true) (hconn : S.world.state.connection = none)
      (hawaiting : S.awaiting = []) (hout : S.pump.Outside)
  | connected (conn : Connection) (hhost : S.host.Clearing) (hlinked : S.linked = true)
      (hconn : S.world.state.connection = some conn) (hsub : conn.subscribed = false)
      (hawaiting : S.awaiting = []) (hout : S.pump.Outside)
  | disconnecting (next : Hook) (hhost : S.host = .lock State.disconnect fun _ => next)
      (hnext : next.Clearing) (hlinked : S.linked = false) (hone : S.awaiting.length ≤ 1)
      (hpump : S.PumpOk)
  | disconnected (hhost : S.host.Clearing) (hlinked : S.linked = false)
      (hconn : S.world.state.connection = none) (hone : S.awaiting.length ≤ 1)
      (hout : S.pump.Outside)
  | completed (hhost : S.host.Clearing) (hlinked : S.linked = true) (htracked : S.Tracked)
      (hawaiting : S.awaiting = []) (hpump : S.PumpHeld)

/-! ### Hooks -/

theorem modifyConn_isSome (connHandle : Handle) (f : Connection → Connection) (s : State) :
    (s.modifyConn connHandle f).connection.isSome = s.connection.isSome := by
  obtain ⟨connection, hmodify, hsome⟩ := s.modifyConn_eq connHandle f
  rw [hmodify]
  exact hsome

theorem write_connection (data : Mbuf) (s : State) :
    (s.write data).1.connection = s.connection := by
  obtain ⟨inData, h⟩ := s.write_fst data
  rw [h]

/-- The events whose hooks matter here. -/
def Event.Quiet : Event → Prop
  | .gap (.connect _ (.ok _) _ _) | .gap (.disconnect _ _) => False
  | event => ¬ event.Terminal

theorem calm_notifyComplete {conn attr : Handle} {indication : Bool} {status : Int}
    (hquiet : ¬ (Event.gatts (.notifyComplete conn attr indication status)).Terminal) :
    (hook (.gatts (.notifyComplete conn attr indication status))).Calm := by
  have hcond : ¬ (indication = true ∧ (status = bleHsEdone ∨ status ≠ 0)) := by
    rintro ⟨hindication, hstatus⟩
    refine hquiet ⟨hindication, ?_⟩
    rcases hstatus with rfl | hstatus
    · decide
    · exact hstatus
  simp only [hook, gattsHook, if_neg hcond]
  exact .ret 0

theorem clearing_notifyComplete {conn attr : Handle} {indication : Bool} {status : Int}
    (hterminal : (Event.gatts (.notifyComplete conn attr indication status)).Terminal) :
    (hook (.gatts (.notifyComplete conn attr indication status))).Clearing := by
  have hcond : indication = true ∧ (status = bleHsEdone ∨ status ≠ 0) :=
    ⟨hterminal.1, Or.inr hterminal.2⟩
  simp only [hook, gattsHook, if_pos hcond]
  exact ⟨_, rfl, .signalOutgoing (.ret 0)⟩

theorem calm_hook {event : Event} (hquiet : event.Quiet) : (hook event).Calm := by
  cases event with
  | host event =>
      cases event with
      | sync => exact .lock (fun _ => rfl) fun _ => .signalOutgoing (.ret 0)
      | other => exact .ret 0
  | gap event =>
      cases event with
      | connect connHandle status found attMtu =>
          cases status with
          | error e => exact .lock (fun _ => rfl) fun _ => .signalOutgoing (.ret 0)
          | ok u => exact hquiet.elim
      | disconnect connHandle reason => exact hquiet.elim
      | mtu connHandle value =>
          exact .lock (fun s => modifyConn_isSome _ _ s) fun _ => .ret 0
      | other => exact .ret 0
  | gatts event =>
      cases event with
      | register reg =>
          cases reg with
          | characteristic uuid valHandle =>
              simp only [hook, gattsHook]
              split
              · exact .storeC2 (.ret 0)
              · exact .ret 0
          | other => exact .ret 0
      | write conn attr data =>
          refine .lock (fun s => by rw [write_connection]) fun s => ?_
          split
          · exact .ret _
          · exact .signalIncoming (.ret 0)
      | read conn attr => exact .ret 0
      | subscriptionChanged connHandle attrHandle curIndicate =>
          refine .loadC2 fun c2 => ?_
          split
          · exact .lock (fun s => modifyConn_isSome _ _ s) fun _ => .signalOutgoing (.ret 0)
          · exact .ret 0
      | notifyComplete conn attr indication status => exact calm_notifyComplete hquiet

/-- A hook that is about to clear the flag, or to take the lock, is not idle. -/
theorem Hook.Clearing.not_idle {h : Hook} (hclearing : h.Clearing) : ¬ h.Idle := by
  obtain ⟨next, rfl, -⟩ := hclearing
  exact id

/-! ### Frames -/

section Frames

variable {S S' : System β}

theorem System.Exact.congr (h : S.Exact) (hnack : S'.world.outNack = S.world.outNack)
    (hconn : S'.world.state.connection.isSome = S.world.state.connection.isSome)
    (hawaiting : S'.awaiting = S.awaiting) : S'.Exact := by
  unfold System.Exact System.Tracked at h ⊢
  rw [hnack, hconn, hawaiting]
  exact h

/-- What holds of the pump depends on little of the system. -/
theorem System.PumpOk.congr (h : S.PumpOk) (hpump : S'.pump = S.pump)
    (hnack : S'.world.outNack = S.world.outNack)
    (hconn : S'.world.state.connection.isSome = S.world.state.connection.isSome)
    (hawaiting : S'.awaiting = S.awaiting) : S'.PumpOk := by
  unfold System.PumpOk System.Exact System.Tracked at h ⊢
  rw [hpump, hnack, hconn, hawaiting]
  exact h

theorem System.PumpHeld.congr (h : S.PumpHeld) (hpump : S'.pump = S.pump)
    (hnack : S'.world.outNack = S.world.outNack)
    (hended : S'.world.ended = none → S.world.ended = none) : S'.PumpHeld := by
  unfold System.PumpHeld at h ⊢
  rw [hpump, hnack]
  split at h
  · exact fun he => h (hended he)
  · exact fun he => h (hended he)
  all_goals exact h

end Frames

/-- Without a connection, the pump is outside its lock section, and the flag is down. -/
theorem System.PumpOk.untracked {S : System β} (h : S.PumpOk)
    (hconn : S.world.state.connection = none) : S.pump.Outside ∧ S.world.outNack = false := by
  have huntracked : ¬ S.Tracked := by
    unfold System.Tracked
    rw [hconn]
    exact Bool.false_ne_true
  have hexact : S.Exact → S.world.outNack = false := fun he =>
    eq_false_of_ne_true fun hnack => huntracked (he.mp hnack).1
  unfold System.PumpOk at h
  cases hpump : S.pump <;> rw [hpump] at h
  case start => exact ⟨trivial, hexact h⟩
  case advertised => exact ⟨trivial, hexact h⟩
  all_goals exact absurd h.1 huntracked

/-- A lowered flag is exact when nothing is awaited. -/
theorem System.Exact.of_lowered {S : System β} (hnack : S.world.outNack = false)
    (hnone : S.awaiting = [] ∨ S.world.state.connection = none) : S.Exact := by
  unfold System.Exact System.Tracked
  rw [hnack]
  rcases hnone with h | h
  · simp [h]
  · simp [h]

/-- Outside the lock section, the pump is as it should be once the flag is exact. -/
theorem System.Exact.pumpOk {S : System β} (h : S.Exact) (hout : S.pump.Outside) : S.PumpOk := by
  unfold System.PumpOk
  cases hpump : S.pump <;> rw [hpump] at hout
  case start => exact h
  case advertised => exact h
  all_goals exact hout.elim

/-- Once the flag is down, the held pump is as it should be. -/
theorem System.PumpHeld.cleared {S S' : System β} (h : S.PumpHeld) (htracked : S'.Tracked)
    (hpump : S'.pump = S.pump) (hnack : S'.world.outNack = false) (hawaiting : S'.awaiting = []) :
    S'.PumpOk := by
  have hexact : S'.Exact := .of_lowered hnack (Or.inl hawaiting)
  unfold System.PumpHeld at h
  unfold System.PumpOk
  cases hstage : S.pump <;> rw [hstage] at h hpump <;> rw [hpump]
  case start => exact hexact
  case advertised => exact hexact
  case checkNack => exact ⟨htracked, hexact⟩
  case indicating => exact ⟨htracked, Or.inl hawaiting, Or.inl ⟨h.1, hexact⟩⟩
  case clearNack => exact ⟨htracked, hawaiting⟩
  all_goals exact h.elim

theorem eq_singleton_of_mem {l : List Nat} {x : Nat} (hmem : x ∈ l) (hone : l.length ≤ 1) :
    l = [x] := by
  cases l with
  | nil => cases hmem
  | cons y l =>
      rw [List.length_cons] at hone
      have hnil : l = [] := List.eq_nil_of_length_eq_zero (by omega)
      subst hnil
      rw [List.mem_singleton.mp hmem]

/-- While an indication awaits its completion, the flag is up and the pump sends nothing new. -/
theorem System.PumpOk.held {S : System β} (h : S.PumpOk) (htracked : S.Tracked)
    (hone : S.awaiting ≠ []) : S.PumpHeld := by
  have hexact : S.Exact → S.world.outNack = true := fun he => he.mpr ⟨htracked, hone⟩
  unfold System.PumpOk at h
  unfold System.PumpHeld
  cases hpump : S.pump <;> rw [hpump] at h
  case start => exact fun _ => hexact h
  case advertised => exact fun _ => hexact h
  case checkNack => exact hexact h.2
  case indicating =>
      rcases h.2.2 with ⟨hcalm, he⟩ | ⟨-, hnone⟩
      · exact ⟨hcalm, hexact he⟩
      · exact absurd hnone hone
  case clearNack => trivial
  case send => exact absurd h.2.2 hone
  all_goals exact absurd h.2.2 hone

/-! ### The host task -/

/-- The events by what they mean here. -/
theorem Event.kinds (event : Event) : event.Quiet ∨
    (∃ conn attr indication status,
      event = .gatts (.notifyComplete conn attr indication status) ∧ event.Terminal) ∨
    (∃ connHandle u found attMtu, event = .gap (.connect connHandle (.ok u) found attMtu)) ∨
    ∃ connHandle reason, event = .gap (.disconnect connHandle reason) := by
  cases event with
  | host event => exact Or.inl id
  | gap event =>
      cases event with
      | connect connHandle status found attMtu =>
          cases status with
          | error e => exact Or.inl id
          | ok u => exact Or.inr (Or.inr (Or.inl ⟨connHandle, u, found, attMtu, rfl⟩))
      | disconnect connHandle reason => exact Or.inr (Or.inr (Or.inr ⟨connHandle, reason, rfl⟩))
      | mtu connHandle value => exact Or.inl id
      | other => exact Or.inl id
  | gatts event =>
      cases event with
      | notifyComplete conn attr indication status =>
          by_cases h : (Event.gatts (.notifyComplete conn attr indication status)).Terminal
          · exact Or.inr (Or.inl ⟨conn, attr, indication, status, rfl, h⟩)
          · exact Or.inl h
      | _ => exact Or.inl id

theorem arrive_of_quiet (S : System β) {event : Event} (hquiet : event.Quiet) (completes : Nat) :
    S.arrive event completes = S := by
  rcases event.kinds with - | ⟨_, _, _, _, rfl, hterminal⟩ | ⟨_, _, _, _, rfl⟩ | ⟨_, _, rfl⟩
  · unfold System.arrive
    split
    · exact hquiet.elim
    · exact hquiet.elim
    · rename_i hconnect hdisconnect
      refine if_neg fun hterminal => ?_
      unfold Event.Quiet at hquiet
      split at hquiet
      · exact hquiet
      · exact hquiet
      · exact hquiet hterminal
  · exact absurd hterminal hquiet
  · exact hquiet.elim
  · exact hquiet.elim

/-- **A hook is entered** only when the previous one returned. -/
theorem inv_deliver {S : System β} (hinv : Inv S) (E : Btp β) (event : Event) (completes : Nat)
    (hidle : S.host.Idle) (hadmits : S.Admits event completes) :
    Inv (act E S (.deliver event completes)) := by
  cases hinv with
  | calm hhost hlinked hone hpump =>
      rcases event.kinds with hquiet | ⟨conn, attr, indication, status, rfl, hterminal⟩ |
        ⟨connHandle, u, found, attMtu, rfl⟩ | ⟨connHandle, reason, rfl⟩
      · simp only [act, arrive_of_quiet S hquiet]
        exact .calm (calm_hook hquiet) hlinked hone (hpump.congr rfl rfl rfl rfl)
      · obtain ⟨hlink, hmem⟩ := hadmits hterminal
        have hsingle := eq_singleton_of_mem hmem hone
        have htracked : S.Tracked := hlinked.symm.trans hlink
        have hheld := hpump.held htracked (List.ne_nil_of_mem hmem)
        simp only [act, System.arrive, if_pos hterminal]
        refine .completed (clearing_notifyComplete hterminal) hlink htracked ?_
          (hheld.congr rfl rfl id)
        simp [hsingle]
      · have hconn : S.world.state.connection = none := by
          rw [← Option.isNone_iff_eq_none, ← Option.not_isSome, ← hlinked, hadmits]
          rfl
        exact .connecting _ _ _ _ rfl ⟨_, rfl, .signalIncoming (.ret 0)⟩ rfl hconn rfl
          (hpump.untracked hconn).1
      · exact .disconnecting _ rfl ⟨_, rfl, .signalIncoming (.signalOutgoing (.ret 0))⟩ rfl hone
          (hpump.congr rfl rfl rfl rfl)
  | connecting peer connHandle mtu next hhost =>
      rw [hhost] at hidle
      exact hidle.elim
  | connected conn hhost => exact absurd hidle hhost.not_idle
  | disconnecting next hhost =>
      rw [hhost] at hidle
      exact hidle.elim
  | disconnected hhost => exact absurd hidle hhost.not_idle
  | completed hhost => exact absurd hidle hhost.not_idle

/-- One step of a calm hook changes nothing that matters. -/
theorem Hook.Calm.atom {h : Hook} (hcalm : h.Calm) (w : World β) :
    (h.atom w).1.Calm ∧ (h.atom w).2.outNack = w.outNack ∧
      (h.atom w).2.state.connection.isSome = w.state.connection.isSome ∧
      (h.atom w).2.ended = w.ended := by
  cases hcalm with
  | ret code => exact ⟨.ret code, rfl, rfl, rfl⟩
  | lock hupdate hnext => exact ⟨hnext _, rfl, hupdate _, rfl⟩
  | storeC2 hnext => exact ⟨hnext, rfl, rfl, rfl⟩
  | loadC2 hnext => exact ⟨hnext _, rfl, rfl, rfl⟩
  | signalIncoming hnext => exact ⟨hnext, rfl, rfl, rfl⟩
  | signalOutgoing hnext => exact ⟨hnext, rfl, rfl, rfl⟩

/-- **A step of the hook.** A hook that changes the connection does so while the pump is outside its
lock section, and clears the flag next. -/
theorem inv_host {S : System β} (hinv : Inv S) (E : Btp β)
    (hlocks : S.host.Locks → S.pump.Outside) : Inv (act E S .host) := by
  cases hinv with
  | calm hhost hlinked hone hpump =>
      obtain ⟨hcalm, hnack, hconn, -⟩ := hhost.atom S.world
      exact .calm hcalm (hlinked.trans hconn.symm) hone (hpump.congr rfl hnack hconn rfl)
  | connecting peer connHandle mtu next hhost hnext hlinked hconn hawaiting hout =>
      simp only [act, hhost, Hook.atom]
      exact .connected _ hnext hlinked rfl rfl hawaiting hout
  | connected conn hhost hlinked hconn hsub hawaiting hout =>
      obtain ⟨next, hhost, hnext⟩ := hhost
      simp only [act, hhost, Hook.atom]
      refine .calm hnext ?_ (by simp [hawaiting]) ?_
      · rw [hlinked, World.state_setNack, hconn]
        rfl
      · exact System.Exact.pumpOk (.of_lowered rfl (Or.inl hawaiting)) hout
  | disconnecting next hhost hnext hlinked hone hpump =>
      have hout := hlocks (by rw [hhost]; trivial)
      simp only [act, hhost, Hook.atom]
      exact .disconnected hnext hlinked rfl hone hout
  | disconnected hhost hlinked hconn hone hout =>
      obtain ⟨next, hhost, hnext⟩ := hhost
      simp only [act, hhost, Hook.atom]
      refine .calm hnext ?_ hone ?_
      · rw [hlinked, World.state_setNack, hconn]
        rfl
      · exact System.Exact.pumpOk (.of_lowered rfl (Or.inr hconn)) hout
  | completed hhost hlinked htracked hawaiting hpump =>
      obtain ⟨next, hhost, hnext⟩ := hhost
      simp only [act, hhost, Hook.atom]
      refine .calm hnext (hlinked.trans htracked.symm) (by simp [hawaiting]) ?_
      exact hpump.cleared htracked rfl rfl hawaiting

/-! ### The pump -/

theorem readvertise_frame (d : Driver) (w : World β) :
    (readvertise d w).1.outNack = w.outNack ∧
      (readvertise d w).1.state.connection = w.state.connection := by
  unfold readvertise
  split <;> exact ⟨rfl, rfl⟩

/-- The pump leaves the connection alone. -/
theorem advance_connection (E : Btp β) (d : Driver) (id : Nat) (w : World β) (stage : Stage) :
    (stage.advance E d id w).world.state.connection = w.state.connection := by
  have hstate := World.syncBtp_state E w
  cases stage with
  | start =>
      simp only [Stage.advance]
      split
      · exact (readvertise_frame d w).2
      · rfl
  | advertised =>
      simp only [Stage.advance]
      repeat' split
      all_goals first | rfl | rw [hstate]
  | produce conn c2 =>
      simp only [Stage.advance]
      repeat' split
      all_goals rfl
  | checkNack conn =>
      simp only [Stage.advance]
      split <;> rfl
  | loadHandle conn =>
      simp only [Stage.advance]
      split <;> rfl
  | _ => rfl

/-- Without a subscriber, the pump stays outside its lock section. -/
theorem advance_outside (E : Btp β) (d : Driver) (id : Nat) (w : World β) {stage : Stage}
    (hout : stage.Outside) (hsub : ∀ conn, w.state.connection = some conn → conn.subscribed = false) :
    (stage.advance E d id w).stage.Outside := by
  cases stage with
  | start =>
      simp only [Stage.advance]
      split <;> trivial
  | advertised =>
      simp only [Stage.advance]
      split
      · split
        · trivial
        · rename_i conn hconn
          rw [if_pos (hsub conn hconn)]
          trivial
      · trivial
  | _ => exact hout.elim

/-- **A step of the pump** keeps what holds of it. -/
theorem pumpOk_pump {S : System β} (hpump : S.PumpOk) (E : Btp β) (d : Driver) :
    (act E S (.pump d)).PumpOk := by
  unfold System.PumpOk at hpump
  cases hstage : S.pump <;> rw [hstage] at hpump <;> simp only [act, hstage, Stage.advance]
  case start =>
      split
      · obtain ⟨hnack, hconn⟩ := readvertise_frame d S.world
        exact hpump.congr hnack (congrArg Option.isSome hconn) rfl
      · exact hpump
  case advertised =>
      have hstate := World.syncBtp_state E S.world
      split
      · split
        · exact hpump
        · rename_i conn hconn
          have hsame : (S.world.syncBtp E).1.state.connection.isSome =
              S.world.state.connection.isSome := by rw [hstate]
          split
          · exact hpump
          · refine ⟨hsame.trans ?_, hpump.congr rfl hsame rfl⟩
            rw [hconn]
            rfl
      · exact hpump
  case checkNack conn =>
      obtain ⟨htracked, hexact⟩ := hpump
      split
      · exact hexact
      · rename_i hnack
        refine ⟨htracked, eq_false_of_ne_true hnack, ?_⟩
        by_contra hawaiting
        exact hnack (hexact.mpr ⟨htracked, hawaiting⟩)
  case loadHandle conn =>
      obtain ⟨htracked, hnack, hawaiting⟩ := hpump
      split
      · exact System.Exact.of_lowered hnack (Or.inl hawaiting)
      · exact ⟨htracked, hnack, hawaiting⟩
  case produce conn c2 =>
      obtain ⟨htracked, hnack, hawaiting⟩ := hpump
      split
      · exact System.Exact.of_lowered hnack (Or.inl hawaiting)
      · split
        · exact System.Exact.of_lowered hnack (Or.inl hawaiting)
        · exact ⟨htracked, hnack, hawaiting⟩
  case markNack conn c2 data => exact ⟨hpump.1, rfl, hpump.2.2⟩
  case send conn c2 data =>
      obtain ⟨htracked, hnack, hawaiting⟩ := hpump
      refine ⟨htracked, Or.inr (by simp [hawaiting]), Or.inl ⟨.ret 0, ?_⟩⟩
      exact iff_of_true hnack ⟨htracked, List.cons_ne_nil _ _⟩
  case indicating id nested => exact hpump
  case clearNack => exact System.Exact.of_lowered rfl (Or.inl hpump.2)

/-- A held pump stays held. -/
theorem pumpHeld_pump {S : System β} (hpump : S.PumpHeld) (E : Btp β) (d : Driver) :
    (act E S (.pump d)).PumpHeld := by
  unfold System.PumpHeld at hpump
  cases hstage : S.pump <;> rw [hstage] at hpump <;> simp only [act, hstage, Stage.advance]
  case start =>
      split
      · rename_i hended
        intro _
        rw [(readvertise_frame d S.world).1]
        exact hpump hended
      · exact hpump
  case advertised =>
      split
      · rename_i hended
        split
        · exact hpump
        · split
          · exact hpump
          · exact hpump hended
      · exact hpump
  case checkNack conn =>
      rw [if_pos hpump]
      exact fun _ => hpump
  case indicating id nested => exact hpump
  case clearNack =>
      intro h
      cases h
  all_goals exact hpump.elim

theorem act_pump_host (E : Btp β) (S : System β) (d : Driver) :
    (act E S (.pump d)).host = S.host ∧ (act E S (.pump d)).linked = S.linked ∧
      (act E S (.pump d)).world = (S.pump.advance E d S.submitted S.world).world ∧
      (act E S (.pump d)).pump = (S.pump.advance E d S.submitted S.world).stage ∧
      ((∀ conn c2 data, S.pump ≠ .send conn c2 data) →
        (act E S (.pump d)).awaiting = S.awaiting) := by
  simp only [act]
  split
  · rename_i conn c2 data hstage
    rw [hstage]
    exact ⟨rfl, rfl, rfl, rfl, fun h => absurd rfl (h conn c2 data)⟩
  · exact ⟨rfl, rfl, rfl, rfl, fun _ => rfl⟩

theorem inv_pump {S : System β} (hinv : Inv S) (E : Btp β) (d : Driver) :
    Inv (act E S (.pump d)) := by
  obtain ⟨hhost', hlinked', hworld, hpump', hawaiting'⟩ := act_pump_host E S d
  have hconn' : (act E S (.pump d)).world.state.connection = S.world.state.connection := by
    rw [hworld]
    exact advance_connection ..
  have hone' : S.PumpOk → S.awaiting.length ≤ 1 → (act E S (.pump d)).awaiting.length ≤ 1 := by
    intro hpump hone
    by_cases hsend : ∃ conn c2 data, S.pump = .send conn c2 data
    · obtain ⟨conn, c2, data, hstage⟩ := hsend
      unfold System.PumpOk at hpump
      rw [hstage] at hpump
      simp [act, hstage, hpump.2.2]
    · push Not at hsend
      rw [hawaiting' hsend]
      exact hone
  have hquiet : S.pump.Outside ∨ S.PumpHeld → (act E S (.pump d)).awaiting = S.awaiting := by
    intro h
    refine hawaiting' fun conn c2 data hstage => ?_
    rcases h with h | h
    · rw [hstage] at h
      exact h
    · unfold System.PumpHeld at h
      rw [hstage] at h
      exact h
  have hout' : S.pump.Outside →
      (∀ conn, S.world.state.connection = some conn → conn.subscribed = false) →
      (act E S (.pump d)).pump.Outside := by
    intro hout hsub
    rw [hpump']
    exact advance_outside E d _ _ hout hsub
  cases hinv with
  | calm hhost hlinked hone hpump =>
      refine .calm (hhost' ▸ hhost) ?_ (hone' hpump hone) (pumpOk_pump hpump E d)
      rw [hlinked', hconn', hlinked]
  | connecting peer connHandle mtu next hhost hnext hlinked hconn hawaiting hout =>
      exact .connecting peer connHandle mtu next (hhost'.trans hhost) hnext (hlinked'.trans hlinked)
        (hconn'.trans hconn) ((hquiet (Or.inl hout)).trans hawaiting)
        (hout' hout fun conn h => by rw [hconn] at h; cases h)
  | connected conn hhost hlinked hconn hsub hawaiting hout =>
      refine .connected conn (hhost' ▸ hhost) (hlinked'.trans hlinked) (hconn'.trans hconn) hsub
        ((hquiet (Or.inl hout)).trans hawaiting) (hout' hout fun conn' h => ?_)
      rw [hconn] at h
      cases h
      exact hsub
  | disconnecting next hhost hnext hlinked hone hpump =>
      exact .disconnecting next (hhost'.trans hhost) hnext (hlinked'.trans hlinked)
        (hone' hpump hone) (pumpOk_pump hpump E d)
  | disconnected hhost hlinked hconn hone hout =>
      refine .disconnected (hhost' ▸ hhost) (hlinked'.trans hlinked) (hconn'.trans hconn) ?_
        (hout' hout fun conn h => by rw [hconn] at h; cases h)
      rw [hquiet (Or.inl hout)]
      exact hone
  | completed hhost hlinked htracked hawaiting hpump =>
      refine .completed (hhost' ▸ hhost) (hlinked'.trans hlinked) ?_
        ((hquiet (Or.inr hpump)).trans hawaiting) (pumpHeld_pump hpump E d)
      unfold System.Tracked
      rw [hconn']
      exact htracked

/-! ### Within `driver.indicate` -/

theorem Hook.Idle.calm {h : Hook} (hidle : h.Idle) : h.Calm := by
  cases h with
  | ret code => exact .ret code
  | _ => exact hidle.elim

/-- In `driver.indicate` the host task is not about to change the connection, but it may be about to
clear the flag. -/
theorem Inv.indicating {S : System β} (hinv : Inv S) {id : Nat} {nested : Hook}
    (hstage : S.pump = .indicating id nested) :
    (S.awaiting.length ≤ 1 ∧ S.PumpOk ∧ ∀ S' : System β, S'.host = S.host → S'.linked = S.linked →
      S'.world.state.connection.isSome = S.world.state.connection.isSome →
      S'.awaiting.length ≤ 1 → S'.PumpOk → Inv S') ∨
    (S.awaiting = [] ∧ S.PumpHeld ∧ ∀ S' : System β, S'.host = S.host → S'.linked = S.linked →
      S'.world.state.connection.isSome = S.world.state.connection.isSome →
      S'.awaiting = [] → S'.PumpHeld → Inv S') := by
  cases hinv with
  | calm hhost hlinked hone hpump =>
      refine Or.inl ⟨hone, hpump, fun S' hh hl hc ho hp => ?_⟩
      exact .calm (hh ▸ hhost) (by rw [hl, hc, hlinked]) ho hp
  | connecting peer connHandle mtu next hhost hnext hlinked hconn hawaiting hout =>
      rw [hstage] at hout
      exact hout.elim
  | connected conn hhost hlinked hconn hsub hawaiting hout =>
      rw [hstage] at hout
      exact hout.elim
  | disconnecting next hhost hnext hlinked hone hpump =>
      refine Or.inl ⟨hone, hpump, fun S' hh hl hc ho hp => ?_⟩
      exact .disconnecting next (hh.trans hhost) hnext (hl.trans hlinked) ho hp
  | disconnected hhost hlinked hconn hone hout =>
      rw [hstage] at hout
      exact hout.elim
  | completed hhost hlinked htracked hawaiting hpump =>
      refine Or.inr ⟨hawaiting, hpump, fun S' hh hl hc ha hp => ?_⟩
      exact .completed (hh ▸ hhost) (hl.trans hlinked) (hc.trans htracked) ha hp

theorem inv_reenter {S : System β} (hinv : Inv S) (E : Btp β) (conn attr : Handle)
    (indication : Bool) (status : Int) (completes : Nat) {id : Nat} {nested : Hook}
    (hstage : S.pump = .indicating id nested) (hidle : nested.Idle)
    (hadmits : S.Admits (.gatts (.notifyComplete conn attr indication status)) completes) :
    Inv (act E S (.reenter conn attr indication status completes)) := by
  by_cases hterminal : (Event.gatts (.notifyComplete conn attr indication status)).Terminal
  · have hmem := (hadmits hterminal).2
    simp only [act, hstage, System.arrive, if_pos hterminal]
    rcases hinv.indicating hstage with ⟨hone, hpump, hback⟩ | ⟨hawaiting, -, -⟩
    · have hsingle := eq_singleton_of_mem hmem hone
      refine hback _ rfl rfl rfl (by simp [hsingle]) ?_
      unfold System.PumpOk at hpump
      rw [hstage] at hpump
      refine ⟨hpump.1, Or.inl ?_, Or.inr ⟨clearing_notifyComplete hterminal, ?_⟩⟩ <;> simp [hsingle]
    · rw [hawaiting] at hmem
      cases hmem
  · have hcalm := calm_notifyComplete hterminal
    simp only [act, hstage, System.arrive, if_neg hterminal]
    rcases hinv.indicating hstage with ⟨hone, hpump, hback⟩ | ⟨hawaiting, hpump, hback⟩
    · refine hback _ rfl rfl rfl hone ?_
      unfold System.PumpOk at hpump
      rw [hstage] at hpump
      obtain ⟨htracked, hids, ⟨-, hexact⟩ | ⟨hclearing, -⟩⟩ := hpump
      · exact ⟨htracked, hids, Or.inl ⟨hcalm, hexact⟩⟩
      · exact absurd hidle hclearing.not_idle
    · refine hback _ rfl rfl rfl hawaiting ?_
      unfold System.PumpHeld at hpump
      rw [hstage] at hpump
      exact ⟨hcalm, hpump.2⟩

theorem inv_nested {S : System β} (hinv : Inv S) (E : Btp β) {id : Nat} {nested : Hook}
    (hstage : S.pump = .indicating id nested) : Inv (act E S .nested) := by
  simp only [act, hstage]
  rcases hinv.indicating hstage with ⟨hone, hpump, hback⟩ | ⟨hawaiting, hpump, hback⟩
  · unfold System.PumpOk at hpump
    rw [hstage] at hpump
    obtain ⟨htracked, hids, ⟨hcalm, hexact⟩ | ⟨⟨next, rfl, hnext⟩, hawaiting⟩⟩ := hpump
    · obtain ⟨hcalm', hnack, hconn, -⟩ := hcalm.atom S.world
      refine hback _ rfl rfl hconn hone ⟨hconn.trans htracked, hids, Or.inl ⟨hcalm', ?_⟩⟩
      exact hexact.congr hnack hconn rfl
    · refine hback _ rfl rfl rfl hone ⟨htracked, hids, Or.inl ⟨hnext, ?_⟩⟩
      exact .of_lowered rfl (Or.inl hawaiting)
  · unfold System.PumpHeld at hpump
    rw [hstage] at hpump
    obtain ⟨hcalm', hnack, hconn, -⟩ := hpump.1.atom S.world
    exact hback _ rfl rfl hconn hawaiting ⟨hcalm', hnack.trans hpump.2⟩

theorem inv_indicated {S : System β} (hinv : Inv S) (E : Btp β) (result : Except BleError Unit)
    {id : Nat} {nested : Hook} (hstage : S.pump = .indicating id nested) (hidle : nested.Idle) :
    Inv (act E S (.indicated result)) := by
  rcases hinv.indicating hstage with ⟨hone, hpump, hback⟩ | ⟨hawaiting, hpump, hback⟩
  · unfold System.PumpOk at hpump
    rw [hstage] at hpump
    obtain ⟨htracked, hids, hcases⟩ := hpump
    cases result with
    | ok u =>
        simp only [act, hstage]
        refine hback _ rfl rfl rfl hone ?_
        rcases hcases with ⟨-, hexact⟩ | ⟨hclearing, -⟩
        · exact hexact
        · exact absurd hidle hclearing.not_idle
    | error e =>
        simp only [act, hstage]
        have hnone : S.awaiting.erase id = [] := by rcases hids with h | h <;> simp [h]
        exact hback _ rfl rfl rfl (by simp [hnone]) ⟨htracked, hnone⟩
  · unfold System.PumpHeld at hpump
    rw [hstage] at hpump
    cases result with
    | ok u =>
        simp only [act, hstage]
        exact hback _ rfl rfl rfl hawaiting fun _ => hpump.2
    | error e =>
        simp only [act, hstage]
        exact hback _ rfl rfl rfl (by simp [hawaiting]) trivial

/-! ### Every reachable state -/

/-- The incoming pump and the rest of the stack leave everything alone that matters here. -/
theorem inv_world {S : System β} (hinv : Inv S) {w : World β}
    (hnack : w.outNack = S.world.outNack) (hconn : w.state.connection = S.world.state.connection)
    (hended : w.ended = none → S.world.ended = none) : Inv { S with world := w } := by
  have hsome := congrArg Option.isSome hconn
  cases hinv with
  | calm hhost hlinked hone hpump =>
      exact .calm hhost (hlinked.trans hsome.symm) hone (hpump.congr rfl hnack hsome rfl)
  | connecting peer connHandle mtu next hhost hnext hlinked hnone hawaiting hout =>
      exact .connecting peer connHandle mtu next hhost hnext hlinked (hconn.trans hnone) hawaiting
        hout
  | connected conn hhost hlinked hconn' hsub hawaiting hout =>
      exact .connected conn hhost hlinked (hconn.trans hconn') hsub hawaiting hout
  | disconnecting next hhost hnext hlinked hone hpump =>
      exact .disconnecting next hhost hnext hlinked hone (hpump.congr rfl hnack hsome rfl)
  | disconnected hhost hlinked hnone hone hout =>
      exact .disconnected hhost hlinked (hconn.trans hnone) hone hout
  | completed hhost hlinked htracked hawaiting hpump =>
      exact .completed hhost hlinked (hsome.trans htracked) hawaiting (hpump.congr rfl hnack hended)

theorem incoming_frame (E : Btp β) (w : World β) :
    (processIncoming E w).world.outNack = w.outNack ∧
      (processIncoming E w).world.state.connection = w.state.connection := by
  have hstate := World.syncBtp_state E w
  unfold processIncoming
  dsimp only
  repeat' split
  all_goals exact ⟨rfl, by simp [hstate]⟩

/-- **Every enabled action keeps the invariant.** -/
theorem inv_act {S : System β} (hinv : Inv S) (E : Btp β) (a : Action β) (ha : Enabled S a) :
    Inv (act E S a) := by
  cases a with
  | deliver event completes => exact inv_deliver hinv E event completes ha.1 ha.2
  | host => exact inv_host hinv E ha.2
  | pump d => exact inv_pump hinv E d
  | reenter conn attr indication status completes =>
      obtain ⟨⟨id, nested, hstage, hidle⟩, hadmits⟩ := ha
      exact inv_reenter hinv E conn attr indication status completes hstage hidle hadmits
  | nested =>
      obtain ⟨id, nested, hstage, -⟩ := ha
      exact inv_nested hinv E hstage
  | indicated result =>
      obtain ⟨id, nested, hstage, hidle⟩ := ha
      exact inv_indicated hinv E result hstage hidle
  | incoming =>
      obtain ⟨hnack, hconn⟩ := incoming_frame E S.world
      simp only [act]
      split
      · rename_i hended
        exact inv_world hinv hnack hconn fun _ => hended
      · exact inv_world hinv rfl rfl id
  | matter btp => exact inv_world hinv rfl rfl id

theorem inv_fresh (c : Context) (c2ValHandle : Handle) (btp : β) :
    Inv (System.fresh c c2ValHandle btp) :=
  .calm (.ret 0) rfl (Nat.zero_le 1) (System.Exact.of_lowered rfl (Or.inl rfl))

/-- **Flow control is exact.** `driver.indicate` is only called when no indication awaits its
completion; and whenever no hook is under way and the pump is outside its lock section, `out_nack` is
up exactly if one does, on the tracked connection. -/
theorem flow_control_exact (E : Btp β) (c : Context) (c2ValHandle : Handle) (btp : β)
    {S : System β} (hreach : Reachable E (.fresh c c2ValHandle btp) S) :
    (∀ conn c2 data, S.pump = .send conn c2 data → S.awaiting = []) ∧
      (S.host.Idle → S.pump.Outside →
        (S.world.outNack = true ↔ S.world.state.connection ≠ none ∧ S.awaiting ≠ [])) := by
  have hinv := hreach.invariant (inv_fresh c c2ValHandle btp) fun S a hinv ha => inv_act hinv E a ha
  refine ⟨fun conn c2 data hstage => ?_, fun hidle hout => ?_⟩
  · have hsend : S.PumpOk → S.awaiting = [] := fun hpump => by
      unfold System.PumpOk at hpump
      rw [hstage] at hpump
      exact hpump.2.2
    cases hinv with
    | calm hhost hlinked hone hpump => exact hsend hpump
    | disconnecting next hhost hnext hlinked hone hpump => exact hsend hpump
    | disconnected hhost hlinked hconn hone hout =>
        rw [hstage] at hout
        exact hout.elim
    | connecting => assumption
    | connected => assumption
    | completed => assumption
  · cases hinv with
    | calm hhost hlinked hone hpump =>
        have hexact : S.Exact := by
          unfold System.PumpOk at hpump
          cases hstage : S.pump <;> rw [hstage] at hout hpump
          case start => exact hpump
          case advertised => exact hpump
          all_goals exact hout.elim
        unfold System.Exact System.Tracked at hexact
        rw [hexact, Option.isSome_iff_ne_none]
    | connecting peer connHandle mtu next hhost =>
        rw [hhost] at hidle
        exact hidle.elim
    | connected conn hhost => exact absurd hidle hhost.not_idle
    | disconnecting next hhost =>
        rw [hhost] at hidle
        exact hidle.elim
    | disconnected hhost => exact absurd hidle hhost.not_idle
    | completed hhost => exact absurd hidle hhost.not_idle

/-- A peer connects and subscribes, and one indication is submitted to it. -/
def indicatingActions : List (Action (List Buffer)) :=
  [.deliver (.gap (.connect 1 (.ok ()) (.ok ⟨.replicate 6 7⟩) (.ok 247))) 0, .host, .host, .host,
    .deliver (.gatts (.subscriptionChanged 1 5 true)) 0, .host, .host, .host,
    .pump .succeeding, .pump .succeeding, .pump .succeeding, .pump .succeeding, .pump .succeeding,
    .pump .succeeding, .pump .succeeding, .indicated (.ok ())]

theorem flow_control_exact_indicating :
    (indicatingActions.foldl (act .queue)
      (.fresh .new 5 [⟨[1], by decide⟩])).world.outNack = true := by
  have hhost : ∀ {h : Hook} {stage : Stage}, (h.Idle → False) → stage.Outside →
      ¬ h.Idle ∧ (h.Locks → stage.Outside) := fun hidle hout => ⟨hidle, fun _ => hout⟩
  have hallowed : Allowed .queue (.fresh .new 5 [⟨[1], by decide⟩]) indicatingActions := by
    refine ⟨⟨trivial, rfl⟩, hhost id trivial, hhost id trivial, hhost id trivial,
      ⟨trivial, fun h => h.elim⟩, hhost id trivial, hhost id trivial, hhost id trivial,
      fun _ _ h => ?_, fun _ _ h => ?_, fun _ _ h => ?_, fun _ _ h => ?_, fun _ _ h => ?_,
      fun _ _ h => ?_, fun _ _ h => ?_, ⟨0, .ret 0, rfl, trivial⟩, trivial⟩
    all_goals cases h
  exact ((flow_control_exact _ .new 5 _ hallowed.reachable).2 trivial trivial).mpr
    ⟨nofun, nofun⟩

end EspIdfMatter.Nimble
