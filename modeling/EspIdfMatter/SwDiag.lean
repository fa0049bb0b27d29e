import EspIdfMatter.Btp
import EspIdfMatter.Library.Text
import EspIdfMatter.Library.Visit

/-! The software diagnostics: the heap, and the tasks of FreeRTOS. -/

namespace EspIdfMatter.SwDiag

open Library Visit

variable {σ : Type}

/-! ### The heap -/

/-- What the allocator reports. -/
structure Heap where
  free : Usize
  total : Usize
  minimumFree : Usize

/-- `usize::saturating_sub` -/
def saturatingSub (x y : Usize) : Usize := if y ≤ x then x - y else 0

def currentHeapFree (heap : Heap) : BitVec 64 := heap.free.setWidth 64

def currentHeapUsed (heap : Heap) : BitVec 64 := (saturatingSub heap.total heap.free).setWidth 64

def currentHeapHighWatermark (heap : Heap) : BitVec 64 :=
  (saturatingSub heap.total heap.minimumFree).setWidth 64

theorem toNat_saturatingSub (x y : Usize) : (saturatingSub x y).toNat = x.toNat - y.toNat := by
  unfold saturatingSub
  split
  · rename_i hle
    exact BitVec.toNat_sub_of_le hle
  · rename_i hgt
    rw [BitVec.le_def] at hgt
    show 0 = _
    omega

/-- **The heap adds up**: what is used and what is free make up the whole of it, and no more was ever used
than the high watermark tells. -/
theorem heap_adds_up {heap : Heap} (hfree : heap.free ≤ heap.total) (hminimum : heap.minimumFree ≤ heap.free) :
    (currentHeapUsed heap).toNat + (currentHeapFree heap).toNat = heap.total.toNat ∧
      currentHeapUsed heap ≤ currentHeapHighWatermark heap ∧
      (currentHeapHighWatermark heap).toNat ≤ heap.total.toNat := by
  have hwide : ∀ x : Usize, (x.setWidth 64).toNat = x.toNat := by
    intro x
    have hlt := x.isLt
    rw [BitVec.toNat_setWidth]
    omega
  rw [BitVec.le_def] at hfree hminimum ⊢
  simp only [currentHeapUsed, currentHeapFree, currentHeapHighWatermark, hwide, toNat_saturatingSub]
  omega

/-! ### The tasks -/

/-- The longest thread name Matter allows -/
def maxNameLen : Nat := 8

/-- `TaskStatus_t`, with the bytes of its name up to the terminator. -/
structure TaskStatus where
  taskNumber : UInt32
  taskName : Bytes
  stackHighWaterMark : UInt32
  deriving DecidableEq

structure ThreadMetric where
  id : UInt64
  name : Option String
  stackFreeCurrent : Option UInt32
  stackSize : Option UInt32
  stackFreeMinimum : Option UInt32
  deriving DecidableEq

/-- A name that is no UTF-8 counts as empty. -/
def nameText (name : Bytes) : String := (String.fromUTF8? ⟨name.toArray⟩).getD ""

def namePrefix (name : Bytes) : BoundedString maxNameLen :=
  BoundedString.empty.pushChars (nameText name).toList

/-- FreeRTOS reports neither the current stack nor its size for stacks growing downwards. -/
def TaskStatus.metric (task : TaskStatus) (name : BoundedString maxNameLen) : ThreadMetric where
  id := task.taskNumber.toUInt64
  name := some name.val
  stackFreeCurrent := none
  stackSize := none
  stackFreeMinimum := some task.stackHighWaterMark

/-- `tasks::visit`, of the snapshot that FreeRTOS takes; the names are copied while the scheduler is
suspended. -/
def threadMetrics (tasks : List TaskStatus) (f : Visitor σ ThreadMetric ErrorCode) (s : σ) :
    σ × Except ErrorCode Unit :=
  let names := tasks.map fun task => namePrefix task.taskName
  visit (fun s entry => f s (TaskStatus.metric entry.1 entry.2)) (tasks.zip names) s

/-- What Matter is told of a task: its number, its stack, and as many characters of its name as fit, where a
name that is no UTF-8 counts as empty. -/
structure Tells (task : TaskStatus) (metric : ThreadMetric) : Prop where
  id : metric.id = task.taskNumber.toUInt64
  stack : metric.stackFreeMinimum = some task.stackHighWaterMark
  name : ∃ text name taken rest, Spells "" task.taskName text ∧ metric.name = some name ∧
    name.toList = taken ∧ name.utf8ByteSize ≤ maxNameLen ∧ text.toList = taken ++ rest ∧
    ∀ c rest', rest = c :: rest' → maxNameLen < name.utf8ByteSize + c.utf8Size

theorem tells_metric (task : TaskStatus) : Tells task (task.metric (namePrefix task.taskName)) := by
  obtain ⟨taken, rest, hsplit, htaken, hfull⟩ :=
    BoundedString.pushChars_longest (n := maxNameLen) .empty (nameText task.taskName).toList
  exact ⟨rfl, rfl, _, _, taken, rest, spells_getD "" task.taskName, rfl, htaken,
    (namePrefix task.taskName).property, hsplit, hfull⟩

/-- **Every task of the snapshot is reported, in order and under as much of its name as fits, up to the first
that the visitor fails on.** -/
theorem tasks_reported (tasks : List TaskStatus) (f : Visitor σ ThreadMetric ErrorCode) (s : σ) :
    ∃ metrics, List.Forall₂ Tells tasks metrics ∧ Visited f s metrics (threadMetrics tasks f s) := by
  refine ⟨tasks.map fun task => task.metric (namePrefix task.taskName), ?_, ?_⟩
  · apply List.forall₂_map_right_iff.mpr
    apply List.forall₂_same.mpr
    intro task _
    exact tells_metric task
  · have hzip : (tasks.zip (tasks.map fun task => namePrefix task.taskName)).map
        (fun entry => entry.1.metric entry.2) =
          tasks.map fun task => task.metric (namePrefix task.taskName) := by
      induction tasks with
      | nil => rfl
      | cons task tasks ih => exact congrArg _ ih
    have hvisit := visit_map f (fun entry : TaskStatus × BoundedString maxNameLen => entry.1.metric entry.2)
      (tasks.zip (tasks.map fun task => namePrefix task.taskName)) s
    rw [threadMetrics, ← hvisit, hzip]
    exact visited f _ s

end EspIdfMatter.SwDiag
