import Mathlib

/-! Tasks that wait on a signal when they find nothing to do. The signal stays raised until its task
consumes it, so what could be lost is only something to do for which no signal is raised. -/

namespace Library

/-- A task that waits was woken, or there is nothing for it to do. -/
def Alert (waits woken idle : Prop) : Prop := waits → woken ∨ idle

section Alert

variable {waits waits' woken woken' idle idle' : Prop}

theorem Alert.of_awake (h : ¬ waits) : Alert waits woken idle := fun hwaits => absurd hwaits h

theorem Alert.of_woken (h : woken) : Alert waits woken idle := fun _ => .inl h

/-- A task that waits only when it has found nothing to do. -/
theorem Alert.of_idle (h : waits → idle) : Alert waits woken idle := fun hwaits => .inr (h hwaits)

/-- What others do must wake the task when it gives the task something to do. -/
theorem Alert.keep (h : Alert waits woken idle) (hwaits : waits' → waits) (hwoken : woken → woken')
    (hidle : idle → woken' ∨ idle') : Alert waits' woken' idle' :=
  fun hw => (h (hwaits hw)).elim (fun hwake => .inl (hwoken hwake)) hidle

/-- A task that waits, and was not woken, misses nothing. -/
theorem Alert.elim (h : Alert waits woken idle) (hwaits : waits) (hasleep : ¬ woken) : idle :=
  (h hwaits).resolve_left hasleep

end Alert

end Library
