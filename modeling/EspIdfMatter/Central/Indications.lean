import EspIdfMatter.Central.Client

/-! Delivery of the `C2` indications to the engine of the client. The hook has room for one of them:
one that comes before the pump took the previous one is dropped. -/

namespace EspIdfMatter.Central

open Library Library.Machine Nimble

variable {β : Type} (E : Btp β) (conn c1Val : Handle)

/-! ### What arrives and what is handed over -/

def Call.handed : Call → Option Bytes
  | .btp (.processIncoming _ _ data _) => some data
  | _ => none

/-- What the engine is handed along a run. -/
def handed (w : World β) (steps : List (Step β)) : List Bytes :=
  (outputs (step E conn c1Val) w steps).filterMap Call.handed

/-- The indication that a step delivers to the hook. -/
def arriving (w : World β) : Step β → List Bytes
  | .event (.gattc (.notify attrHandle data)) =>
      if some attrHandle = w.state.c2Val then [data.payload] else []
  | _ => []

/-- The indications that a run delivers to the hook. -/
def arrivals (w : World β) (steps : List (Step β)) : List Bytes :=
  outputs (fun w s => ((step E conn c1Val w s).1, arriving w s)) w steps

/-- An indication finds the previous one taken. -/
def InTime (w : World β) : Step β → Prop
  | .event (.gattc (.notify attrHandle _)) =>
      some attrHandle = w.state.c2Val → w.state.inData.isEmpty = true
  | _ => True

/-- An indication is not empty and is read exactly. -/
def Reads (w : World β) : Step β → Prop
  | .event (.gattc (.notify attrHandle data)) =>
      some attrHandle = w.state.c2Val → data.CopiesExactly ∧ data.payload ≠ []
  | _ => True

structure World.Live (w : World β) : Prop where
  connected : w.state.failed = false
  running : w.aborted = false

/-- The connection stays up, the outgoing pump does not fail, and an indication is read exactly. -/
structure Sound (w : World β) (s : Step β) : Prop where
  live : (step E conn c1Val w s).1.Live
  outgoing : ∀ result e, s = .outgoing result → w.ended = none →
    (processOutgoing E conn c1Val result w).processed ≠ .error e
  reads : Reads w s

/-- The engine takes what an iteration hands it. -/
def Takes (w : World β) (s : Step β) : Prop :=
  s = .incoming → w.ended = none → ∀ e, (processIncoming E w).processed ≠ .error e

/-- The indication that waits for the pump, if any. -/
def World.waiting (w : World β) : List Bytes :=
  if w.state.inData.toList = [] then [] else [w.state.inData.toList]

/-! ### One step -/

theorem World.waiting_congr {w w' : World β} (h : w'.state.inData = w.state.inData) :
    w'.waiting = w.waiting := by
  simp only [World.waiting, h]

theorem State.notify_of_empty {s : State} {data : Mbuf} (hempty : s.inData.isEmpty = true)
    (hdata : data.CopiesExactly) : s.notify data = { s with inData := ⟨data.payload, hdata.1⟩ } := by
  have hread := hdata.2 (s.inData.resize maxMtuSize le_rfl) (BoundedVec.length_resize _ _)
  simp only [State.notify, hempty, if_true,
    BoundedVec.resizeDefault_of_le _ (le_refl maxMtuSize), hread, hdata.truncate]

theorem State.notify_of_occupied {s : State} (data : Mbuf) (hfull : ¬ s.inData.isEmpty = true) :
    s.notify data = s := if_neg hfull

/-- Only an indication on `C2` touches the buffer. -/
theorem onEvent_inData {event : Event} {c c' : Context} (h : onEvent event c = some c')
    (hother : ∀ attrHandle data, event = .gattc (.notify attrHandle data) →
      some attrHandle ≠ c.state.c2Val) : c'.state.inData = c.state.inData := by
  cases event with
  | host event => cases event <;> cases h <;> rfl
  | gap event =>
      cases event with
      | connect connHandle status found attMtu => cases status <;> cases h <;> rfl
      | mtu connHandle value =>
          cases h
          simp only [onGapEvent, Context.modify]
          split <;> rfl
      | _ =>
          cases h
          rfl
  | gattc event =>
      cases event with
      | service service =>
          cases service with
          | none =>
              cases h
              rfl
          | some service =>
              cases h
              split <;> rfl
      | characteristic chr =>
          cases chr with
          | none =>
              cases h
              rfl
          | some chr =>
              cases h
              simp only [Context.modify]
              repeat' split
              all_goals rfl
      | writeComplete attrHandle status =>
          have hwrite : ∀ cccd, (onWriteComplete attrHandle status cccd c).state.inData =
              c.state.inData := by
            intro cccd
            unfold onWriteComplete
            repeat' split
            all_goals rfl
          simp only [onEvent, onGattcEvent] at h
          split at h
          · cases h
            exact hwrite _
          · obtain ⟨cccd, -, rfl⟩ := Option.map_eq_some_iff.mp h
            exact hwrite _
      | notify attrHandle data =>
          simp only [onEvent, onGattcEvent, if_neg (hother attrHandle data rfl)] at h
          cases h
          rfl
      | readComplete =>
          cases h
          rfl

section Step

variable {w : World β}

theorem step_of_running (hlive : w.Live) (s : Step β) : step E conn c1Val w s =
    match s with
    | .event event =>
        match onEvent event w.context with
        | some context => ({ w with context }, [])
        | none => ({ w with aborted := true }, [])
    | .incoming => if w.ended = none then (processIncoming E w).finish else (w, [])
    | .outgoing result =>
        if w.ended = none then (processOutgoing E conn c1Val result w).finish else (w, [])
    | .matter btp => (w.setBtp btp, []) :=
  if_neg (by rw [hlive.running]; exact Bool.false_ne_true)

/-- What an indication on `C2` does. -/
theorem step_notify (hlive : w.Live) {attrHandle : Handle} (data : Mbuf)
    (hc2 : some attrHandle = w.state.c2Val) :
    step E conn c1Val w (.event (.gattc (.notify attrHandle data))) =
      ({ w with context := (w.context.modify (.notify data)).signalIn }, []) := by
  rw [step_of_running E conn c1Val hlive]
  simp only [onEvent, onGattcEvent, World.state] at hc2 ⊢
  rw [if_pos hc2]

end Step

/-- What a step does to the buffer and to what is handed over. -/
inductive Moves (w : World β) (s : Step β) : Prop where
  /-- An indication is stashed. -/
  | stash (data : Bytes) (harrives : arriving w s = [data]) (htime : InTime w s)
      (hempty : w.waiting = []) (hwaiting : (step E conn c1Val w s).1.waiting = [data])
      (hended : (step E conn c1Val w s).1.ended = w.ended)
      (hhanded : (step E conn c1Val w s).2.filterMap Call.handed = [])
  /-- An indication is dropped. -/
  | drop (data : Bytes) (harrives : arriving w s = [data]) (hlate : ¬ InTime w s)
      (hwaiting : (step E conn c1Val w s).1.waiting = w.waiting)
      (hended : (step E conn c1Val w s).1.ended = w.ended)
      (hhanded : (step E conn c1Val w s).2.filterMap Call.handed = [])
  /-- The pump hands over what waits. -/
  | hand (harrives : arriving w s = []) (htime : InTime w s)
      (hwaiting : (step E conn c1Val w s).1.waiting = [])
      (hended : (step E conn c1Val w s).1.ended = none)
      (hhanded : (step E conn c1Val w s).2.filterMap Call.handed = w.waiting)
  /-- The engine fails. -/
  | fail (e : ErrorCode) (harrives : arriving w s = []) (htime : InTime w s)
      (htakes : ¬ Takes E w s) (hended : (step E conn c1Val w s).1.ended = some e)
      (hhanded : (step E conn c1Val w s).2.filterMap Call.handed = w.waiting)
  /-- Nothing happens to the buffer. -/
  | keep (harrives : arriving w s = []) (htime : InTime w s)
      (hwaiting : (step E conn c1Val w s).1.waiting = w.waiting)
      (hended : (step E conn c1Val w s).1.ended = w.ended)
      (hhanded : (step E conn c1Val w s).2.filterMap Call.handed = [])
      (hidle : s = .incoming → w.ended ≠ none)

theorem moves_notify {w : World β} (hlive : w.Live) {attrHandle : Handle} {data : Mbuf}
    (hs : Sound E conn c1Val w (.event (.gattc (.notify attrHandle data))))
    (hc2 : some attrHandle = w.state.c2Val) :
    Moves E conn c1Val w (.event (.gattc (.notify attrHandle data))) := by
  obtain ⟨hexact, hfull⟩ := hs.reads hc2
  have hstep := step_notify E conn c1Val hlive data hc2
  have hstate : (step E conn c1Val w (.event (.gattc (.notify attrHandle data)))).1.state =
      w.state.notify data := by
    rw [hstep]
    rfl
  by_cases hempty : w.state.inData.isEmpty = true
  · rw [State.notify_of_empty hempty hexact] at hstate
    refine .stash data.payload (if_pos hc2) (fun _ => hempty) ?_ ?_ (by rw [hstep])
      (by rw [hstep]; rfl)
    · exact if_pos ((BoundedVec.isEmpty_iff _).mp hempty)
    · simp only [World.waiting, hstate, if_neg hfull]
  · rw [State.notify_of_occupied data hempty] at hstate
    refine .drop data.payload (if_pos hc2) (fun h => hempty (h hc2)) ?_ (by rw [hstep])
      (by rw [hstep]; rfl)
    exact World.waiting_congr (by rw [hstate])

theorem moves_incoming {w : World β} (hlive : w.Live) : Moves E conn c1Val w .incoming := by
  have hstep := step_of_running E conn c1Val hlive .incoming
  by_cases hended : w.ended = none
  · simp only [if_pos hended] at hstep
    by_cases hempty : w.state.inData.isEmpty = true
    · have hidle : processIncoming E w = ⟨w, [], .ok false⟩ := by
        simp [processIncoming, hlive.connected, hempty]
      have hnone : w.waiting = [] := if_pos ((BoundedVec.isEmpty_iff _).mp hempty)
      rw [hidle] at hstep
      refine .hand rfl trivial ?_ ?_ ?_
      · rw [hstep]
        exact hnone
      · rw [hstep]
        rfl
      · rw [hstep, hnone]
        rfl
    · have hfull : w.waiting = [w.state.inData.toList] :=
        if_neg fun h => hempty ((BoundedVec.isEmpty_iff _).mpr h)
      cases hanswer : E.processIncoming w.btp w.state.mtu w.state.peer w.state.inData.toList with
      | mk btp result =>
          cases result with
          | error e =>
              have hfailed : processIncoming E w = ⟨w.setBtp btp, [.btp (.processIncoming
                  w.state.mtu w.state.peer w.state.inData.toList (.error e))], .error e⟩ := by
                simp [processIncoming, hlive.connected, hempty, hanswer]
              rw [hfailed] at hstep
              refine .fail e rfl trivial (fun htakes => ?_) ?_ ?_
              · refine htakes rfl hended e ?_
                rw [hfailed]
              · rw [hstep]
                rfl
              · rw [hstep, hfull]
                rfl
          | ok u =>
              have hdone : processIncoming E w =
                  ⟨(w.setState { w.state with inData := .empty }).setBtp btp, [.btp (.processIncoming
                    w.state.mtu w.state.peer w.state.inData.toList (.ok ()))], .ok true⟩ := by
                simp [processIncoming, hlive.connected, hempty, hanswer]
              rw [hdone] at hstep
              refine .hand rfl trivial ?_ ?_ ?_
              · rw [hstep]
                rfl
              · rw [hstep]
                rfl
              · rw [hstep, hfull]
                rfl
  · rw [if_neg hended] at hstep
    exact .keep rfl trivial (by rw [hstep]) (by rw [hstep]) (by rw [hstep]; rfl) fun _ => hended

/-- The outgoing pump leaves the buffer alone, and hands nothing over. -/
theorem processOutgoing_frame (result : Except BleError Unit) (w : World β) :
    (processOutgoing E conn c1Val result w).world.state.inData = w.state.inData ∧
      (processOutgoing E conn c1Val result w).calls.filterMap Call.handed = [] := by
  unfold processOutgoing
  repeat' split
  all_goals exact ⟨rfl, rfl⟩

theorem Processed.error?_eq_none {p : Processed} (h : ∀ e, p ≠ .error e) : p.error? = none := by
  cases p with
  | ok b => rfl
  | error e => exact absurd rfl (h e)

theorem moves_outgoing {w : World β} (hlive : w.Live) {result : Except BleError Unit}
    (hs : Sound E conn c1Val w (.outgoing result)) : Moves E conn c1Val w (.outgoing result) := by
  have hstep := step_of_running E conn c1Val hlive (.outgoing result)
  obtain ⟨hdata, hcalls⟩ := processOutgoing_frame E conn c1Val result w
  by_cases hended : w.ended = none
  · simp only [if_pos hended] at hstep
    refine .keep rfl trivial ?_ ?_ ?_ nofun
    · rw [hstep]
      exact World.waiting_congr hdata
    · rw [hstep, hended]
      exact Processed.error?_eq_none (hs.outgoing result · rfl hended)
    · rw [hstep]
      exact hcalls
  · simp only [if_neg hended] at hstep
    exact .keep rfl trivial (by rw [hstep]) (by rw [hstep]) (by rw [hstep]; rfl) nofun

/-- **Every step moves the indications** in one of these ways. -/
theorem moves_step {w : World β} (hlive : w.Live) {s : Step β} (hs : Sound E conn c1Val w s) :
    Moves E conn c1Val w s := by
  cases s with
  | incoming => exact moves_incoming E conn c1Val hlive
  | outgoing result => exact moves_outgoing E conn c1Val hlive hs
  | matter btp =>
      have hstep := step_of_running E conn c1Val hlive (.matter btp)
      exact .keep rfl trivial (by rw [hstep]; rfl) (by rw [hstep]; rfl) (by rw [hstep]; rfl) nofun
  | event event =>
      by_cases hc2 : ∃ attrHandle data, event = .gattc (.notify attrHandle data) ∧
          some attrHandle = w.state.c2Val
      · obtain ⟨attrHandle, data, rfl, hc2⟩ := hc2
        exact moves_notify E conn c1Val hlive hs hc2
      · push Not at hc2
        have hstep := step_of_running E conn c1Val hlive (.event event)
        have hquiet : arriving w (.event event) = [] ∧ InTime w (.event event) := by
          cases event with
          | gattc event =>
              cases event with
              | notify attrHandle data =>
                  exact ⟨if_neg (hc2 attrHandle data rfl), fun h => absurd h (hc2 attrHandle data rfl)⟩
              | _ => exact ⟨rfl, trivial⟩
          | _ => exact ⟨rfl, trivial⟩
        cases hevent : onEvent event w.context with
        | none =>
            simp only [hevent] at hstep
            have hrunning := hs.live.running
            rw [hstep] at hrunning
            cases hrunning
        | some context =>
            simp only [hevent] at hstep
            refine .keep hquiet.1 hquiet.2 ?_ (by rw [hstep]) (by rw [hstep]; rfl) nofun
            rw [hstep]
            exact World.waiting_congr (onEvent_inData hevent hc2)

/-! ### Runs -/

section Runs

variable {E conn c1Val} {w : World β}

theorem handed_cons (s : Step β) (steps : List (Step β)) :
    handed E conn c1Val w (s :: steps) = (step E conn c1Val w s).2.filterMap Call.handed ++
      handed E conn c1Val (step E conn c1Val w s).1 steps := by
  rw [handed, outputs_cons, List.filterMap_append]
  rfl

theorem arrivals_cons (s : Step β) (steps : List (Step β)) :
    arrivals E conn c1Val w (s :: steps) =
      arriving w s ++ arrivals E conn c1Val (step E conn c1Val w s).1 steps := rfl

variable (E conn c1Val) in
theorem step_of_ended {e : ErrorCode} (hended : w.ended = some e) (s : Step β) :
    (step E conn c1Val w s).2 = [] ∧ (step E conn c1Val w s).1.ended = some e := by
  unfold step
  split
  · exact ⟨rfl, hended⟩
  · cases s with
    | event event =>
        dsimp only
        split <;> exact ⟨rfl, hended⟩
    | incoming => simp [hended]
    | outgoing result => simp [hended]
    | matter btp => exact ⟨rfl, hended⟩

/-- After an error of a pump nothing is handed over any more. -/
theorem handed_of_ended {e : ErrorCode} (hended : w.ended = some e) (steps : List (Step β)) :
    handed E conn c1Val w steps = [] := by
  induction steps generalizing w with
  | nil => rfl
  | cons s steps ih =>
      obtain ⟨hcalls, hended'⟩ := step_of_ended E conn c1Val hended s
      rw [handed_cons, hcalls, ih hended']
      rfl

/-- As long as every indication comes in time, none is handed over out of turn. -/
theorem handed_prefix (hlive : w.Live) {steps : List (Step β)}
    (hsound : Along (step E conn c1Val) (Sound E conn c1Val) w steps)
    (htime : Along (step E conn c1Val) InTime w steps) :
    handed E conn c1Val w steps <+: w.waiting ++ arrivals E conn c1Val w steps := by
  induction steps generalizing w with
  | nil => exact List.nil_prefix
  | cons s steps ih =>
      have hrest := ih hsound.1.live hsound.2 htime.2
      rw [handed_cons, arrivals_cons]
      cases moves_step E conn c1Val hlive hsound.1 with
      | stash data harrives _ hempty hwaiting _ hhanded =>
          rw [hhanded, harrives, hempty]
          rwa [hwaiting] at hrest
      | drop _ _ hlate => exact absurd htime.1 hlate
      | hand harrives _ hwaiting _ hhanded =>
          rw [hhanded, harrives]
          rw [hwaiting] at hrest
          exact (List.prefix_append_right_inj _).mpr hrest
      | fail e harrives _ _ hended hhanded =>
          rw [hhanded, harrives, handed_of_ended hended, List.append_nil]
          exact List.prefix_append _ _
      | keep harrives _ hwaiting _ hhanded =>
          rw [hhanded, harrives]
          rwa [hwaiting] at hrest

/-- Once the pump has caught up, either every indication came in time and was handed over, or fewer
were handed over than arrived. -/
theorem drained (hlive : w.Live) (hended : w.ended = none) {steps : List (Step β)}
    (hsound : Along (step E conn c1Val) (Sound E conn c1Val) w steps)
    (htakes : Along (step E conn c1Val) (Takes E) w (steps ++ [.incoming])) :
    (Along (step E conn c1Val) InTime w steps ∧
        handed E conn c1Val w (steps ++ [.incoming]) = w.waiting ++ arrivals E conn c1Val w steps) ∨
      (¬ Along (step E conn c1Val) InTime w steps ∧
        (handed E conn c1Val w (steps ++ [.incoming])).length <
          (w.waiting ++ arrivals E conn c1Val w steps).length) := by
  induction steps generalizing w with
  | nil =>
      refine Or.inl ⟨trivial, ?_⟩
      rw [List.nil_append, handed_cons]
      cases moves_incoming E conn c1Val hlive with
      | hand _ _ _ _ hhanded => rw [hhanded]; rfl
      | fail _ _ _ hfails => exact absurd htakes.1 hfails
      | keep _ _ _ _ _ hidle => exact absurd hended (hidle rfl)
      | stash _ harrives => cases harrives
      | drop _ harrives => cases harrives
  | cons s steps ih =>
      rw [List.cons_append] at htakes ⊢
      rw [along_cons] at hsound htakes ⊢
      rw [handed_cons, arrivals_cons]
      cases moves_step E conn c1Val hlive hsound.1 with
      | stash data harrives htime hempty hwaiting hended' hhanded =>
          rw [hhanded, harrives, hempty]
          rcases ih hsound.1.live (hended'.trans hended) hsound.2 htakes.2 with ⟨hall, heq⟩ | ⟨hnot, hlt⟩
          · exact Or.inl ⟨⟨htime, hall⟩, by rw [heq, hwaiting]⟩
          · rw [hwaiting] at hlt
            exact Or.inr ⟨fun h => hnot h.2, hlt⟩
      | drop data harrives hlate hwaiting hended' hhanded =>
          rw [hhanded, harrives]
          refine Or.inr ⟨fun h => hlate h.1, ?_⟩
          rcases ih hsound.1.live (hended'.trans hended) hsound.2 htakes.2 with ⟨-, heq⟩ | ⟨-, hlt⟩
          · rw [heq, hwaiting]
            simp
          · rw [hwaiting] at hlt
            simp only [List.nil_append, List.length_append, List.length_cons, List.length_nil] at hlt ⊢
            omega
      | hand harrives htime hwaiting hended' hhanded =>
          rw [hhanded, harrives]
          rcases ih hsound.1.live hended' hsound.2 htakes.2 with ⟨hall, heq⟩ | ⟨hnot, hlt⟩
          · exact Or.inl ⟨⟨htime, hall⟩, by rw [heq, hwaiting]⟩
          · rw [hwaiting] at hlt
            refine Or.inr ⟨fun h => hnot h.2, ?_⟩
            simp only [List.nil_append, List.length_append] at hlt ⊢
            omega
      | fail _ _ _ hfails => exact absurd htakes.1 hfails
      | keep harrives htime hwaiting hended' hhanded =>
          rw [hhanded, harrives]
          rcases ih hsound.1.live (hended'.trans hended) hsound.2 htakes.2 with ⟨hall, heq⟩ | ⟨hnot, hlt⟩
          · exact Or.inl ⟨⟨htime, hall⟩, by rw [heq, hwaiting]; rfl⟩
          · rw [hwaiting] at hlt
            exact Or.inr ⟨fun h => hnot h.2, hlt⟩

end Runs

/-- **The indications are delivered** exactly if each of them comes in time: what the engine is handed
is a prefix of what arrived and, once the pump has caught up and the engine took everything, all of
it. -/
theorem indications_delivered {w : World β} (hlive : w.Live) (hended : w.ended = none)
    (hempty : w.state.inData = .empty) (steps : List (Step β))
    (hsound : Along (step E conn c1Val) (Sound E conn c1Val) w steps) :
    (Along (step E conn c1Val) InTime w steps →
        handed E conn c1Val w steps <+: arrivals E conn c1Val w steps) ∧
      (Along (step E conn c1Val) (Takes E) w (steps ++ [.incoming]) →
        (handed E conn c1Val w (steps ++ [.incoming]) = arrivals E conn c1Val w steps ↔
          Along (step E conn c1Val) InTime w steps)) := by
  have hnone : w.waiting = [] := by
    unfold World.waiting
    rw [hempty]
    rfl
  constructor
  · intro htime
    have hprefix := handed_prefix hlive hsound htime
    rwa [hnone] at hprefix
  · intro htakes
    have hdrained := drained hlive hended hsound htakes
    rw [hnone, List.nil_append] at hdrained
    constructor
    · intro heq
      rcases hdrained with ⟨hall, -⟩ | ⟨-, hlt⟩
      · exact hall
      · rw [heq] at hlt
        exact absurd hlt (lt_irrefl _)
    · intro htime
      rcases hdrained with ⟨-, heq⟩ | ⟨hnot, -⟩
      · exact heq
      · exact absurd htime hnot

/-! ### Runs on either side of the condition -/

/-- A client that knows `C2`. -/
def subscribedWorld : World (List Buffer) where
  context := { Context.new with state := { State.new with c2Val := some 7 } }
  btp := []
  ended := none
  aborted := false

def notifying (payload : Bytes) : Step (List Buffer) :=
  .event (.gattc (.notify 7 (.ofBytes payload)))

/-- The pump runs after every indication. -/
def timelyRun : List (Step (List Buffer)) :=
  [notifying [1], .incoming, notifying [2], .incoming]

/-- The second indication comes before the pump took the first. -/
def lateRun : List (Step (List Buffer)) :=
  [notifying [1], notifying [2], .incoming, notifying [3], .incoming]

theorem sound_notifying {w : World (List Buffer)} (hlive : w.Live) (x : UInt8) :
    Sound .queue 1 3 w (notifying [x]) := by
  have hfits := Mbuf.copiesExactly_ofBytes [x] (show 1 ≤ 512 by decide)
  have hfailed : ∀ s : State, (s.notify (.ofBytes [x])).failed = s.failed := by
    intro s
    unfold State.notify
    repeat' split
    all_goals rfl
  have hframe : (step .queue 1 3 w (notifying [x])).1.state.failed = w.state.failed ∧
      (step .queue 1 3 w (notifying [x])).1.aborted = w.aborted := by
    rw [step_of_running _ _ _ hlive]
    dsimp only [notifying, onEvent, onGattcEvent]
    split
    · exact ⟨hfailed _, rfl⟩
    · exact ⟨rfl, rfl⟩
  refine ⟨⟨hframe.1.trans hlive.connected, hframe.2.trans hlive.running⟩, nofun, fun _ => ?_⟩
  exact ⟨hfits, by simp [Mbuf.ofBytes]⟩

theorem sound_incoming {w : World (List Buffer)} (hlive : w.Live) :
    Sound .queue 1 3 w .incoming := by
  have hframe : (step .queue 1 3 w .incoming).1.state.failed = w.state.failed ∧
      (step .queue 1 3 w .incoming).1.aborted = w.aborted := by
    rw [step_of_running _ _ _ hlive]
    dsimp only
    split
    · unfold processIncoming
      repeat' split
      all_goals exact ⟨rfl, rfl⟩
    · exact ⟨rfl, rfl⟩
  exact ⟨⟨hframe.1.trans hlive.connected, hframe.2.trans hlive.running⟩, nofun, trivial⟩

theorem takes_queue {w : World (List Buffer)} (hlive : w.Live) (s : Step (List Buffer)) :
    Takes .queue w s := by
  intro _ _ e
  unfold processIncoming
  rw [if_neg (by rw [hlive.connected]; exact Bool.false_ne_true)]
  split
  · simp
  · simp [Btp.queue]

theorem indications_delivered_timelyRun :
    handed .queue 1 3 subscribedWorld (timelyRun ++ [.incoming]) = [[1], [2]] := by
  have hone := sound_notifying (w := subscribedWorld) ⟨rfl, rfl⟩ 1
  have htwo := sound_incoming hone.live
  have hthree := sound_notifying htwo.live 2
  have hfour := sound_incoming hthree.live
  have hdelivered := indications_delivered .queue 1 3 (w := subscribedWorld) ⟨rfl, rfl⟩ rfl rfl
    timelyRun ⟨hone, htwo, hthree, hfour, trivial⟩
  refine ((hdelivered.2 ⟨takes_queue ⟨rfl, rfl⟩ _, takes_queue hone.live _, takes_queue htwo.live _,
    takes_queue hthree.live _, takes_queue hfour.live _, trivial⟩).mpr ?_).trans (by decide +kernel)
  exact ⟨fun _ => rfl, trivial, fun _ => by decide +kernel, trivial, trivial⟩

/-- The second indication is lost, and the third is handed over in its place. -/
theorem late_indication_lost :
    Along (step .queue 1 3) (Sound .queue 1 3) subscribedWorld lateRun ∧
      Along (step .queue 1 3) (Takes .queue) subscribedWorld lateRun ∧
      ¬ handed .queue 1 3 subscribedWorld lateRun <+: arrivals .queue 1 3 subscribedWorld lateRun := by
  have hone := sound_notifying (w := subscribedWorld) ⟨rfl, rfl⟩ 1
  have htwo := sound_notifying hone.live 2
  have hthree := sound_incoming htwo.live
  have hfour := sound_notifying hthree.live 3
  have hfive := sound_incoming hfour.live
  refine ⟨⟨hone, htwo, hthree, hfour, hfive, trivial⟩, ?_, by decide +kernel⟩
  exact ⟨takes_queue ⟨rfl, rfl⟩ _, takes_queue hone.live _, takes_queue htwo.live _,
    takes_queue hthree.live _, takes_queue hfour.live _, trivial⟩

end EspIdfMatter.Central
