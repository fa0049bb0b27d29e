import EspIdfMatter.Nimble.Isolation
import EspIdfMatter.Bluedroid.FlowControl

/-! Session isolation of the two GATT peripherals. -/

namespace EspIdfMatter

open Library Library.Machine Session

variable {β : Type}

/-- **Neither peripheral lets anything cross the border between two connections**, provided that no
`C1` write to the NimBLE peripheral fails to be read. The Bluedroid context may have been used before;
the generations started on it since it was created count. -/
theorem sessions_isolated (E : Btp β) (c : Nimble.Context) (c2ValHandle : Handle) (btp : β)
    (steps : List (Nimble.Step β))
    (hread : Along (Nimble.observe E) Nimble.ReadsExactly (.fresh c c2ValHandle btp) steps)
    (hbudget : total (Nimble.observe E) (Nimble.increments E) (.fresh c c2ValHandle btp) steps <
      2 ^ 32)
    (cfg : Bluedroid.Config) (c' : Bluedroid.Context) (btp' : β) (steps' : List (Bluedroid.Step β))
    {n : Nat} (hused : c'.Used E n)
    (hbudget' : n + total (Bluedroid.observe cfg E) (Bluedroid.increments cfg E) (.fresh c' btp')
      steps' < 2 ^ 32) :
    Isolated (outputs (Nimble.observe E) (.fresh c c2ValHandle btp) steps) ∧
      Isolated (outputs (Bluedroid.observe cfg E) (.fresh c' btp') steps') :=
  ⟨Nimble.isolated_run E c c2ValHandle btp steps hread hbudget,
    (Bluedroid.isolated_run cfg E c' btp' steps' (hused.within (by omega)) hbudget').1⟩

/-! ### Runs on either side of the condition -/

def somePeer : BtAddr := ⟨.replicate 6 7⟩

/-- A connection, a `C1` write that fits, and one iteration of either pump; then the same over. -/
def reconnectingRun : List (Nimble.Step (List Buffer)) :=
  let session : Handle → List (Nimble.Step (List Buffer)) := fun conn =>
    [.event (.gap (.connect conn (.ok ()) (.ok somePeer) (.ok 247))),
      .event (.gatts (.write conn 2 (.ofBytes [1, 2, 3]))),
      .incoming, .outgoing .succeeding, .event (.gap (.disconnect conn 0))]
  session 1 ++ session 2

def reconnectingRun' : List (Bluedroid.Step (List Buffer)) :=
  let session : Handle → List (Bluedroid.Step (List Buffer)) := fun conn =>
    [.gatts 3 (.peerConnected conn Bluedroid.somePeer) .succeeding, .incoming .succeeding,
      .gatts 3 (.peerDisconnected conn Bluedroid.somePeer) .succeeding]
  session 1 ++ session 2

theorem sessions_isolated_reconnecting :
    Isolated (outputs (Nimble.observe .queue) (.fresh .new 5 []) reconnectingRun) ∧
      Isolated (outputs (Bluedroid.observe Bluedroid.someConfig .queue) (.fresh .new []) reconnectingRun') := by
  refine sessions_isolated .queue .new 5 [] reconnectingRun ?_ ?_ Bluedroid.someConfig .new [] reconnectingRun'
    .new ?_
  · have hfits := Nimble.Mbuf.copiesExactly_ofBytes [1, 2, 3] (by decide)
    exact ⟨trivial, fun _ => hfits, trivial, trivial, trivial, trivial, fun _ => hfits, trivial,
      trivial, trivial, trivial⟩
  · exact (total_le_length (Nimble.increments_le_one _) _ _).trans_lt (by decide)
  · rw [Nat.zero_add]
    exact (total_le_length (Bluedroid.increments_le_one _ _) _ _).trans_lt (by decide)

/-- A connection, a `C1` write, and one iteration of the incoming pump. -/
def writingRun (payload : Bytes) : List (Nimble.Step (List Buffer)) :=
  [.event (.gap (.connect 1 (.ok ()) (.ok somePeer) (.ok 247))),
    .event (.gatts (.write 1 2 (.ofBytes payload))),
    .incoming]

/-- If the payload does not fit, the engine is handed the buffer that was prepared for it. -/
theorem outputs_writingRun {payload : Bytes} (hlen : maxMtuSize < payload.length) :
    outputs (Nimble.observe .queue) (.fresh .new 0 []) (writingRun payload) =
      [.recorded 1, .btp .reset,
        .btp (.processIncoming (some 247) somePeer
          ((BoundedVec.empty : Buffer).resize maxMtuSize le_rfl).toList (.ok ()))] := by
  obtain ⟨w, hw⟩ : ∃ w, w = (Nimble.step .queue (.fresh .new 0 [])
      (.event (.gap (.connect 1 (.ok ()) (.ok somePeer) (.ok 247))))).1 := ⟨_, rfl⟩
  have hroom : w.state.inData.isEmpty = true := by rw [hw]; rfl
  have hwrite := Nimble.State.write_of_oversized hroom hlen
  have hobs : Nimble.observe .queue w (.event (.gatts (.write 1 2 (.ofBytes payload)))) =
      (w.setState { w.state with inData := w.state.inData.resize maxMtuSize le_rfl }, []) := by
    simp only [Nimble.observe, Nimble.step, Nimble.eventObs, Nimble.exec_write, hwrite]
    rfl
  rw [writingRun, outputs_cons, outputs_cons, Nimble.observe_fst, ← hw, hobs, hw]
  rfl

/-- After a `C1` write of 513 bytes, the engine is handed bytes that nobody wrote. -/
theorem oversized_write_not_isolated :
    total (Nimble.observe .queue) (Nimble.increments .queue) (.fresh .new 0 [])
        (writingRun (.replicate 513 1)) < 2 ^ 32 ∧
      ¬ Isolated (outputs (Nimble.observe .queue) (.fresh .new 0 [])
        (writingRun (.replicate 513 1))) := by
  refine ⟨?_, fun hiso => ?_⟩
  · exact (total_le_length (Nimble.increments_le_one _) _ _).trans_lt (by decide)
  · rw [outputs_writingRun (by rw [List.length_replicate]; decide)] at hiso
    obtain ⟨conn, log, hcur, -, hwrote⟩ := hiso [.recorded 1, .btp .reset] _ [] rfl
    cases hcur
    simp at hwrote

end EspIdfMatter
