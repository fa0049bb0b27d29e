import EspIdfMatter.Nimble.Unseen

/-! A context that an earlier peripheral has used, and what `reset` leaves in it. The generation of the
connections goes on counting, which nobody can see; a request to advertise stays as well. -/

namespace EspIdfMatter.Nimble

open Library Library.Machine

variable {β : Type}

/-! ### The start of `run` -/

/-- Append the bytes one by one. -/
def pushBytes {n : Nat} : BoundedVec UInt8 n → Bytes → BoundedVec UInt8 n × Except ErrorCode Unit
  | v, [] => (v, .ok ())
  | v, byte :: bytes =>
      match v.push byte with
      | none => (v, .error .noSpace)
      | some v => pushBytes v bytes

/-- `run` takes the advertising payload over before it starts anything. -/
def State.loadAdvData (serviceAdvData : Bytes) (s : State) : State × Except ErrorCode Unit :=
  let loaded := pushBytes .empty serviceAdvData
  ({ s with advData := loaded.1 }, loaded.2)

def advError? : Except ErrorCode Unit → Option ErrorCode
  | .ok _ => none
  | .error e => some e

/-- `run` on a context, up to its pumps. -/
def World.run (c : Context) (c2ValHandle : Handle) (btp : β) (serviceAdvData : Bytes) : World β where
  context := { c with state := (c.state.loadAdvData serviceAdvData).1 }
  c2ValHandle := c2ValHandle
  btp := btp
  ended := advError? (c.state.loadAdvData serviceAdvData).2

/-! ### What is left -/

theorem run_reset (c : Context) (h : c.state.needAdvertise = false) (c2ValHandle : Handle) (btp : β)
    (serviceAdvData : Bytes) :
    World.run c.reset c2ValHandle btp serviceAdvData =
      (World.run .new c2ValHandle btp serviceAdvData).offset ⟨c.state.connGen, false, false⟩ := by
  have hgen : State.new.connGen + c.state.connGen = c.state.connGen := zero_add _
  simp only [World.run, World.offset, World.state, World.outNack, State.offset, State.loadAdvData,
    Context.reset, Context.new, State.new, Option.map_none, Bool.or_false, h] at hgen ⊢
  rw [hgen]

/-- The first iteration of the outgoing pump tries to advertise if that was asked for. -/
theorem outputs_run_outgoing (E : Btp β) (c : Context) (c2ValHandle : Handle) (btp : β)
    (hconn : c.state.connection = none) :
    outputs (step E) (.run c c2ValHandle btp []) [.outgoing .succeeding] =
      if c.state.needAdvertise = true then [.ensureAddr, .advSetData [], .advStart] else [] := by
  have hended : (World.run c c2ValHandle btp []).ended = none := rfl
  have hconn' : (readvertise .succeeding (World.run c c2ValHandle btp [])).1.state.connection = none := by
    unfold readvertise
    split
    · exact hconn
    · exact hconn
  have hneed : (World.run c c2ValHandle btp []).state.needAdvertise = c.state.needAdvertise := rfl
  rw [outputs_cons, outputs_nil, List.append_nil, step, if_pos hended]
  show (readvertise .succeeding (World.run c c2ValHandle btp [])).2 ++
    (processOutgoing E .succeeding (readvertise .succeeding (World.run c c2ValHandle btp [])).1).calls = _
  rw [processOutgoing, hconn', List.append_nil, readvertise, hneed]
  split
  · rfl
  · rfl

/-- A context that was reset behaves like a new one exactly when nobody has asked to advertise since the
outgoing pump last looked. -/
theorem reset_fresh_iff (E : Btp β) (c : Context) (btp : β) :
    (∀ c2ValHandle serviceAdvData (steps : List (Step β)),
        outputs (step E) (.run c.reset c2ValHandle btp serviceAdvData) steps =
          outputs (step E) (.run .new c2ValHandle btp serviceAdvData) steps) ↔
      c.state.needAdvertise = false := by
  constructor
  · intro hsame
    have h := hsame 0 [] [.outgoing .succeeding]
    rw [outputs_run_outgoing E c.reset 0 btp rfl, outputs_run_outgoing E .new 0 btp rfl] at h
    cases hneed : c.state.needAdvertise with
    | false => rfl
    | true =>
        have hneed' : c.reset.state.needAdvertise = true := hneed
        rw [if_pos hneed'] at h
        cases h
  · intro hneed c2ValHandle serviceAdvData steps
    rw [run_reset c hneed, outputs_offset]

/-- The host was synchronized, and the peripheral dropped before the outgoing pump got to it. -/
def syncedContext : Context :=
  (after (step Btp.queue) (.run .new 0 [] [2, 1, 6]) [.event (.host .sync)]).context

/-- The next peripheral tries to advertise before its host is there. -/
theorem residue :
    outputs (step Btp.queue) (.run syncedContext.reset 0 [] [2, 1, 6]) [.outgoing .succeeding] =
        [.ensureAddr, .advSetData [2, 1, 6], .advStart] ∧
      outputs (step Btp.queue) (.run .new 0 [] [2, 1, 6]) [.outgoing .succeeding] = [] := by
  decide

end EspIdfMatter.Nimble
