import CopyUp.Kernel.Basic

/-!
# Scripted kernels

A script is a kernel that answers from a list prepared in advance: the n-th call takes the n-th
entry. When the list is used up every call is granted with default values. Opened files get
ascending numbers that are never used again.
-/

namespace CopyUp

/-- The values that a granted call may report. A call picks the ones that it has a use for. -/
structure Script.Values where
  metadata : Metadata := ⟨⟨42⟩, 1, 0o100644, 0, 0, 0⟩
  /-- How many of the offered bytes a write takes; all of them by default. -/
  taken : Option Nat := none
  /-- What a directory read fills in; nothing by default. -/
  data : Bytes := []
  /-- The canonical form of a path; the path itself by default. -/
  path : Option Path := none

inductive Script.Entry
  | refuse (errno : Errno)
  | grant (values : Script.Values)

structure Script where
  entries : List Script.Entry
  nextDescriptor : Descriptor := 1000

namespace Script

/-- What a granted call reports. -/
def Values.reply (values : Values) (next : Descriptor) : (call : Call) → call.Reply
  | .stat .. | .lstat .. | .fstat .. => values.metadata
  | .openFile .. | .dup .. => next
  | .write _ bytes | .pwrite _ bytes _ => min (values.taken.getD bytes.length) bytes.length
  | .getdents64 _ capacity => values.data.take capacity
  | .realpath path => values.path.getD path
  | .close .. | .truncate .. | .ftruncate .. | .chmod .. | .fchmod .. | .chown .. | .lchown ..
  | .fchown .. | .rename .. | .link .. | .unlink .. | .utimes .. | .utimensat .. | .futimens ..
  | .setxattr .. | .lsetxattr .. | .fsetxattr .. | .removexattr .. | .lremovexattr ..
  | .fremovexattr .. | .fallocate .. => ()

/-- The number after a granted call: opening and duplicating use one up. -/
def advance (next : Descriptor) : Call → Descriptor
  | .openFile .. | .dup .. => next + 1
  | _ => next

def answer (call : Call) (script : Script) : Except Errno call.Reply × Script :=
  match script.entries with
  | [] => (.ok (Values.reply {} script.nextDescriptor call),
      ⟨[], advance script.nextDescriptor call⟩)
  | .refuse errno :: rest => (.error errno, ⟨rest, script.nextDescriptor⟩)
  | .grant values :: rest => (.ok (values.reply script.nextDescriptor call),
      ⟨rest, advance script.nextDescriptor call⟩)

theorem entries_answer (call : Call) (script : Script) :
    (answer call script).2.entries = script.entries.tail := by
  unfold answer
  split <;> simp [*]

instance : Kernel Script where
  answer := answer
  patience script := script.entries.length
  patience_answer_le call script := by simp [entries_answer]
  patience_lt_of_interrupted {call script} interrupted := by
    cases h : script.entries with
    | nil => simp [answer, h] at interrupted
    | cons => simp [entries_answer, h]
  patience_lt_of_filled {fd capacity script bytes} filled nonempty := by
    cases h : script.entries with
    | nil =>
      simp only [answer, h, Values.reply, List.take_nil, Except.ok.injEq] at filled
      exact absurd filled.symm nonempty
    | cons => simp [entries_answer, h]
  written_le {fd bytes script count} written := by
    unfold answer at written
    split at written <;> simp only [Values.reply, Except.ok.injEq, reduceCtorEq] at written
    all_goals exact written ▸ Nat.min_le_right ..
  pwritten_le {fd bytes offset script count} written := by
    unfold answer at written
    split at written <;> simp only [Values.reply, Except.ok.injEq, reduceCtorEq] at written
    all_goals exact written ▸ Nat.min_le_right ..
  filled_le {fd capacity script bytes} filled := by
    unfold answer at filled
    split at filled <;> simp only [Values.reply, Except.ok.injEq, reduceCtorEq] at filled
    all_goals exact filled ▸ List.length_take_le ..

end Script

end CopyUp
