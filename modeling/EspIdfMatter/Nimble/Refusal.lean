import EspIdfMatter.Nimble.Delivery

/-! What a refused `C1` write leaves behind: nothing, unless it is refused because the mbuf could not be
read, which leaves the buffer that was prepared for it. -/

namespace EspIdfMatter.Nimble

open Library Library.Machine

variable {β : Type}

/-- What the driver promises of an mbuf: a read writes within the buffer it is given, and one that
succeeds copies the whole payload. -/
structure Mbuf.Lawful (m : Mbuf) : Prop where
  length : ∀ buf, (m.read buf).1.length = buf.length
  copies : ∀ buf len, (m.read buf).2 = .ok len →
    len = m.payload.length ∧ m.payload.length ≤ buf.length ∧ (m.read buf).1 = buf.overwrite m.payload

/-- There is something in the buffer, or the mbuf can be read into it. -/
def State.Receives (s : State) (data : Mbuf) : Prop :=
  s.inData.isEmpty = false ∨ ∃ len, (data.read (s.inData.resize maxMtuSize le_rfl)).2 = .ok len

theorem State.write_of_read {s : State} {data : Mbuf} (hlawful : data.Lawful)
    (hroom : s.inData.isEmpty = true) {len : Nat}
    (hread : (data.read (s.inData.resize maxMtuSize le_rfl)).2 = .ok len) :
    ∃ inData : Buffer, inData.toList = data.payload ∧ s.write data = ({ s with inData }, .ok ()) := by
  obtain ⟨hlen, hfits, hbuf⟩ := hlawful.copies _ len hread
  have hpair : data.read (s.inData.resize maxMtuSize le_rfl) =
      ((s.inData.resize maxMtuSize le_rfl).overwrite data.payload, .ok data.payload.length) := by
    rw [← hbuf, ← hlen, ← hread]
  refine ⟨((s.inData.resize maxMtuSize le_rfl).overwrite data.payload).truncate data.payload.length,
    ?_, ?_⟩
  · rw [BoundedVec.toList_truncate]
    exact BoundedVec.take_overwrite _ hfits
  · simp only [State.write, hroom, Bool.true_eq_false, if_false,
      BoundedVec.resizeDefault_of_le _ (le_refl maxMtuSize), hpair]

theorem State.write_of_unread {s : State} {data : Mbuf} (hroom : s.inData.isEmpty = true) {e : BleError}
    (hread : (data.read (s.inData.resize maxMtuSize le_rfl)).2 = .error e) :
    s.write data =
      ({ s with inData := (data.read (s.inData.resize maxMtuSize le_rfl)).1 }, .error ()) := by
  have hpair : data.read (s.inData.resize maxMtuSize le_rfl) =
      ((data.read (s.inData.resize maxMtuSize le_rfl)).1, .error e) := by
    rw [← hread]
  simp only [State.write, hroom, Bool.true_eq_false, if_false,
    BoundedVec.resizeDefault_of_le _ (le_refl maxMtuSize)]
  rw [hpair]

/-- A refused write leaves the state alone exactly when the buffer is occupied or the mbuf can be read. -/
theorem State.write_unchanged_iff {s : State} {data : Mbuf} (hlawful : data.Lawful) :
    ((s.write data).2 = .error () → (s.write data).1 = s) ↔ s.Receives data := by
  by_cases hroom : s.inData.isEmpty = true
  · cases hread : (data.read (s.inData.resize maxMtuSize le_rfl)).2 with
    | ok len =>
        obtain ⟨inData, -, hwrite⟩ := State.write_of_read hlawful hroom hread
        rw [hwrite]
        exact iff_of_true nofun (.inr ⟨len, hread⟩)
    | error e =>
        rw [State.write_of_unread hroom hread]
        refine iff_of_false (fun hsame => ?_) ?_
        · -- the buffer was empty, and now it is full
          have hbuf := congrArg State.inData (hsame rfl)
          have hlen := hlawful.length (s.inData.resize maxMtuSize le_rfl)
          rw [BoundedVec.length_resize] at hlen
          have hempty : s.inData.length = 0 :=
            BoundedVec.length_eq_zero_iff.mpr ((BoundedVec.isEmpty_iff _).mp hroom)
          have hfull := (congrArg BoundedVec.length hbuf).symm.trans hlen
          cases hempty.symm.trans hfull
        · rintro (hoccupied | ⟨len, hok⟩)
          · cases hroom.symm.trans hoccupied
          · cases hread.symm.trans hok
  · rw [Bool.not_eq_true] at hroom
    rw [State.write_of_occupied data hroom]
    exact iff_of_true (fun _ => rfl) (.inl hroom)

/-- The hook's answer says whether the write was refused. -/
theorem exec_write_refused_iff (w : World β) (conn attr : Handle) (data : Mbuf) :
    ((hook (.gatts (.write conn attr data))).exec w).2 = bleAttErrInsufficientRes ↔
      (w.state.write data).2 = .error () := by
  rw [exec_write]
  cases (w.state.write data).2 with
  | error u => exact iff_of_true rfl rfl
  | ok u =>
      have haccepted : (0 : UInt8) ≠ bleAttErrInsufficientRes := by decide
      exact iff_of_false haccepted nofun

/-- A refused write leaves everything alone exactly when it leaves the state alone. -/
theorem exec_write_unchanged_iff {data : Mbuf} (hlawful : data.Lawful) (w : World β)
    (conn attr : Handle) :
    (((hook (.gatts (.write conn attr data))).exec w).2 = bleAttErrInsufficientRes →
        ((hook (.gatts (.write conn attr data))).exec w).1 = w) ↔ w.state.Receives data := by
  rw [← State.write_unchanged_iff hlawful, exec_write_refused_iff]
  have hworld : (w.state.write data).2 = .error () →
      ((hook (.gatts (.write conn attr data))).exec w).1 = w.setState (w.state.write data).1 := by
    intro hrefused
    rw [exec_write, hrefused]
  constructor
  · intro hsame hrefused
    have hstate := congrArg World.state (hsame hrefused)
    rwa [hworld hrefused, World.state_setState] at hstate
  · intro hsame hrefused
    rw [hworld hrefused, hsame hrefused]
    rfl

/-! ### Runs -/

/-- What a run lets see: the calls of the pumps, and what the hooks return. -/
inductive Answer where
  | call (call : Call)
  | write (payload : Bytes) (code : UInt8)
  | event (code : UInt8)
  deriving DecidableEq

def Event.answer (code : UInt8) : Event → Answer
  | .gatts (.write _ _ data) => .write data.payload code
  | _ => .event code

def respond (E : Btp β) (w : World β) : Step β → World β × List Answer
  | .event event => (((hook event).exec w).1, [event.answer ((hook event).exec w).2])
  | s => ((step E w s).1, (step E w s).2.map .call)

theorem respond_fst (E : Btp β) (w : World β) (s : Step β) : (respond E w s).1 = (step E w s).1 := by
  cases s <;> rfl

/-- A `C1` write finds the buffer occupied, or its mbuf can be read. -/
def Receives (w : World β) : Step β → Prop
  | .event (.gatts (.write _ _ data)) => data.Lawful ∧ w.state.Receives data
  | _ => True

/-- What is handed to the engine is the payload of a write that was accepted before. -/
def HandsAccepted (before : List Answer) (answer : Answer) : Prop :=
  ∀ mtu peer data result, answer = .call (.btp (.processIncoming mtu peer data result)) →
    .write data 0 ∈ before

/-- What is in the buffer is the payload of a write that was accepted before. -/
def Accepted (h : List Answer) (w : World β) : Prop :=
  w.state.inData.toList = [] ∨ .write w.state.inData.toList 0 ∈ h

theorem Accepted.mono {h : List Answer} {w w' : World β} (hw : Accepted h w) (later : List Answer)
    (hdata : w'.state.inData = w.state.inData ∨ w'.state.inData = .empty) : Accepted (h ++ later) w' := by
  rcases hdata with hdata | hdata
  · rw [Accepted, hdata]
    exact hw.imp_right (List.mem_append_left _)
  · rw [Accepted, hdata]
    exact .inl rfl

/-- Events other than writes keep the buffer, or empty it. -/
theorem update_inData (c2ValHandle : Handle) {event : Event} (s : State)
    (hother : ∀ conn attr data, event ≠ .gatts (.write conn attr data)) :
    (event.update c2ValHandle s).inData = s.inData ∨ (event.update c2ValHandle s).inData = .empty := by
  have hmodify : ∀ connHandle f, (s.modifyConn connHandle f).inData = s.inData := by
    intro connHandle f
    unfold State.modifyConn
    repeat' split
    all_goals rfl
  unfold Event.update
  split
  · exact .inl rfl
  · exact .inl rfl
  · exact .inr rfl
  · exact .inr rfl
  · exact .inr rfl
  · exact .inl (hmodify _ _)
  · exact absurd rfl (hother _ _ _)
  · split
    · exact .inl (hmodify _ _)
    · exact .inl rfl
  · exact .inl rfl

theorem accepted_event (E : Btp β) {h : List Answer} {w : World β} (hw : Accepted h w) (event : Event)
    (hreceives : Receives w (.event event)) :
    Accepted (h ++ (respond E w (.event event)).2) (respond E w (.event event)).1 := by
  by_cases hwrite : ∃ conn attr data, event = .gatts (.write conn attr data)
  · obtain ⟨conn, attr, data, rfl⟩ := hwrite
    obtain ⟨hlawful, hreceives⟩ := hreceives
    by_cases hroom : w.state.inData.isEmpty = true
    · obtain hoccupied | ⟨len, hread⟩ := hreceives
      · cases hroom.symm.trans hoccupied
      · obtain ⟨inData, hdata, hwritten⟩ := State.write_of_read hlawful hroom hread
        refine .inr ?_
        simp only [respond, exec_write, hwritten, Event.answer, World.state_wakeIncoming,
          World.state_setState, hdata]
        simp
    · rw [Bool.not_eq_true] at hroom
      refine hw.mono _ (.inl ?_)
      simp only [respond, exec_write, State.write_of_occupied data hroom, World.state_setState]
  · push Not at hwrite
    apply hw.mono
    simp only [respond, exec_state]
    exact update_inData _ _ hwrite

theorem processIncoming_inData (E : Btp β) (w : World β) :
    (processIncoming E w).world.state.inData = w.state.inData ∨
      (processIncoming E w).world.state.inData = .empty := by
  have hstate := World.syncBtp_state E w
  unfold processIncoming
  split
  · exact .inl rfl
  dsimp only
  split
  · exact .inl (by rw [hstate])
  split
  · exact .inl (by rw [World.state_setBtp, hstate])
  · exact .inr rfl

/-- What a pump hands over is what is in the buffer. -/
theorem handsAccepted_calls {h : List Answer} {w : World β} (hw : Accepted h w) {calls : List Call}
    (hcalls : calls.filterMap Call.handed = [] ∨
      ∃ mtu peer, calls.filterMap Call.handed = [⟨mtu, peer, w.state.inData.toList⟩] ∧
        w.state.inData.toList ≠ []) :
    ∀ answer ∈ calls.map Answer.call, ∀ later, HandsAccepted (h ++ later) answer := by
  rintro answer hanswer later mtu peer data result rfl
  obtain ⟨call, hcall, heq⟩ := List.mem_map.mp hanswer
  cases heq
  have hmem : (⟨mtu, peer, data⟩ : Handed) ∈ calls.filterMap Call.handed :=
    List.mem_filterMap.mpr ⟨_, hcall, rfl⟩
  rcases hcalls with hnone | ⟨mtu', peer', hone, hsome⟩
  · rw [hnone] at hmem
    cases hmem
  · rw [hone, List.mem_singleton] at hmem
    cases hmem
    exact List.mem_append_left _ (hw.resolve_left hsome)

theorem accepted_incoming (E : Btp β) {h : List Answer} {w : World β} (hw : Accepted h w) :
    Accepted (h ++ (respond E w .incoming).2) (respond E w .incoming).1 ∧
      ∀ answer ∈ (respond E w .incoming).2, ∀ later, HandsAccepted (h ++ later) answer := by
  simp only [respond, step]
  split
  · refine ⟨hw.mono _ (processIncoming_inData E w), ?_⟩
    apply handsAccepted_calls hw
    rcases processIncoming_cases E w with ⟨hnone, -⟩ | ⟨mtu, peer, hone, hsome, -⟩
    · exact .inl hnone
    · exact .inr ⟨mtu, peer, hone, hsome⟩
  · exact ⟨hw.mono _ (.inl rfl), List.forall_mem_nil _⟩

theorem accepted_outgoing (E : Btp β) (d : Driver) {h : List Answer} {w : World β}
    (hw : Accepted h w) :
    Accepted (h ++ (respond E w (.outgoing d)).2) (respond E w (.outgoing d)).1 ∧
      ∀ answer ∈ (respond E w (.outgoing d)).2, ∀ later, HandsAccepted (h ++ later) answer := by
  obtain ⟨hnone, -, hdata⟩ := outgoing_frame E d w
  simp only [respond, step]
  split
  · exact ⟨hw.mono _ (.inl hdata), handsAccepted_calls hw (.inl hnone)⟩
  · exact ⟨hw.mono _ (.inl rfl), List.forall_mem_nil _⟩

theorem accepted_step (E : Btp β) {h : List Answer} {w : World β} (hw : Accepted h w) (s : Step β)
    (hs : Receives w s) :
    Accepted (h ++ (respond E w s).2) (respond E w s).1 ∧
      ∀ answer ∈ (respond E w s).2, ∀ later, HandsAccepted (h ++ later) answer := by
  cases s with
  | event event =>
      refine ⟨accepted_event E hw event hs, fun answer hanswer later => ?_⟩
      rintro mtu peer data result rfl
      rw [respond, List.mem_singleton] at hanswer
      unfold Event.answer at hanswer
      split at hanswer <;> cases hanswer
  | incoming => exact accepted_incoming E hw
  | outgoing d => exact accepted_outgoing E d hw
  | matter btp => exact ⟨hw.mono _ (.inl rfl), List.forall_mem_nil _⟩

/-- Whatever is handed over during a run was accepted. -/
theorem accepted_run (E : Btp β) {w : World β} (hempty : w.state.inData.toList = [])
    {steps : List (Step β)} (hrun : Along (respond E) Receives w steps) :
    Throughout HandsAccepted (outputs (respond E) w steps) := by
  have hkept := run_induction (respond E) (I := fun h w steps =>
    Throughout HandsAccepted h ∧ Accepted h w ∧ Along (respond E) Receives w steps) ?_
    (h := []) ⟨throughout_nil _, .inl hempty, hrun⟩
  · exact hkept.1
  · rintro h w s steps ⟨hall, hw, hs, hrest⟩
    obtain ⟨hnext, hanswers⟩ := accepted_step E hw s hs
    exact ⟨throughout_append hall fun answer hanswer later _ => hanswers answer hanswer later, hnext,
      hrest⟩

/-- **A refused write leaves the peripheral as it was exactly when it found the buffer occupied, or its
mbuf could be read.** When all writes of a run are like this, any refused one can be left out of it, and
whatever is handed to the engine is the payload of a write that was accepted. -/
theorem refused_write_unchanged_iff (E : Btp β) :
    (∀ (w : World β) (conn attr : Handle) (data : Mbuf), data.Lawful →
      ((((hook (.gatts (.write conn attr data))).exec w).2 = bleAttErrInsufficientRes →
          ((hook (.gatts (.write conn attr data))).exec w).1 = w) ↔
        w.state.Receives data)) ∧
    ∀ (c : Context) (c2ValHandle : Handle) (btp : β) (steps : List (Step β)),
      Along (respond E) Receives (.fresh c c2ValHandle btp) steps →
        Throughout HandsAccepted (outputs (respond E) (.fresh c c2ValHandle btp) steps) ∧
        ∀ before conn attr data later,
          steps = before ++ .event (.gatts (.write conn attr data)) :: later →
          ((hook (.gatts (.write conn attr data))).exec
            (after (respond E) (.fresh c c2ValHandle btp) before)).2 = bleAttErrInsufficientRes →
          after (respond E) (.fresh c c2ValHandle btp) (before ++ later) =
              after (respond E) (.fresh c c2ValHandle btp) steps ∧
            ∃ front back,
              outputs (respond E) (.fresh c c2ValHandle btp) steps =
                front ++ .write data.payload bleAttErrInsufficientRes :: back ∧
              outputs (respond E) (.fresh c c2ValHandle btp) (before ++ later) = front ++ back := by
  refine ⟨fun w conn attr data hlawful => exec_write_unchanged_iff hlawful w conn attr,
    fun c c2ValHandle btp steps hrun => ⟨accepted_run E rfl hrun, ?_⟩⟩
  rintro before conn attr data later rfl hrefused
  obtain ⟨-, ⟨hlawful, hreceives⟩, -⟩ := (along_append _ _ _).mp hrun
  have hsame := (exec_write_unchanged_iff hlawful _ conn attr).mpr hreceives hrefused
  have hnext : respond E (after (respond E) (.fresh c c2ValHandle btp) before)
      (.event (.gatts (.write conn attr data))) =
        (after (respond E) (.fresh c c2ValHandle btp) before,
          [.write data.payload bleAttErrInsufficientRes]) := by
    rw [respond, hsame, hrefused]
    rfl
  rw [after_append, after_append, after_cons, hnext]
  refine ⟨rfl, _, _, ?_, outputs_append _ _ before later⟩
  rw [outputs_append, outputs_cons, hnext]
  rfl

theorem Mbuf.lawful_ofBytes (payload : Bytes) : (Mbuf.ofBytes payload).Lawful := by
  constructor
  · intro buf
    simp only [Mbuf.ofBytes]
    split
    · rename_i hfits
      simp only [BoundedVec.overwrite, BoundedVec.length, List.length_take, List.length_append,
        List.length_drop] at hfits ⊢
      omega
    · rfl
  · intro buf len hread
    simp only [Mbuf.ofBytes] at hread ⊢
    split_ifs at hread ⊢ with hfits
    · cases hread
      exact ⟨rfl, hfits, rfl⟩

theorem State.receives_ofBytes (s : State) {payload : Bytes} (hlen : payload.length ≤ maxMtuSize) :
    s.Receives (.ofBytes payload) := by
  have hfits : payload.length ≤ (s.inData.resize maxMtuSize le_rfl).length := by
    rwa [BoundedVec.length_resize]
  refine .inr ⟨payload.length, ?_⟩
  simp only [Mbuf.ofBytes, if_pos hfits]

/-- A write that comes before the pump has taken the one before is refused. -/
def refusingRun : List (Step (List Buffer)) :=
  [.event (.gap (.connect 1 (.ok ()) (.ok ⟨.replicate 6 7⟩) (.ok 247))),
    .event (.gatts (.write 1 2 (.ofBytes [1]))), .event (.gatts (.write 1 2 (.ofBytes [2]))), .incoming]

theorem refused_write_unchanged_refusing :
    Throughout HandsAccepted (outputs (respond .queue) (.fresh .new 0 []) refusingRun) := by
  apply ((refused_write_unchanged_iff .queue).2 .new 0 [] refusingRun ?_).1
  exact ⟨trivial, ⟨Mbuf.lawful_ofBytes [1], State.receives_ofBytes _ (by decide)⟩,
    ⟨Mbuf.lawful_ofBytes [2], State.receives_ofBytes _ (by decide)⟩, trivial, trivial⟩

/-- A write that is too long for the buffer. -/
def oversized : Mbuf := .ofBytes (List.replicate (maxMtuSize + 1) 1)

/-- It is refused, and the buffer is not empty afterwards. -/
theorem oversized_write_leaves_filler :
    ((hook (.gatts (.write 1 2 oversized))).exec (World.fresh .new 0 ())).2 =
        bleAttErrInsufficientRes ∧
      ((hook (.gatts (.write 1 2 oversized))).exec (World.fresh .new 0 ())).1 ≠
        World.fresh .new 0 () := by
  have hroom : State.new.inData.isEmpty = true := rfl
  have hlength : maxMtuSize < (List.replicate (maxMtuSize + 1) (1 : UInt8)).length := by
    rw [List.length_replicate]
    exact Nat.lt_succ_self _
  have hwrite := State.write_of_oversized hroom hlength
  refine ⟨(exec_write_refused_iff _ 1 2 oversized).mpr (congrArg Prod.snd hwrite), fun hsame => ?_⟩
  have hstate := congrArg World.state hsame
  rw [exec_state] at hstate
  have hfresh : (World.fresh Context.new 0 ()).state = State.new := rfl
  rw [hfresh, Event.update, oversized, hwrite] at hstate
  have hfull := BoundedVec.length_resize (n := maxMtuSize) State.new.inData le_rfl
  have hempty : State.new.inData.length = 0 := rfl
  have hzero : maxMtuSize = 0 := by
    rw [← hfull, ← hempty]
    exact congrArg (fun s => s.inData.length) hstate
  exact absurd hzero (by decide)

end EspIdfMatter.Nimble
