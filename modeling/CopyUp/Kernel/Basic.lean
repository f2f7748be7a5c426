import CopyUp.Kernel.Call

/-!
# Kernels

A kernel answers calls. Nothing is assumed about what it answers beyond what every kernel keeps:
it never takes or fills more bytes than it was offered, and it does not interrupt calls or produce
directory data for ever. The last point is what makes every run end.
-/

namespace CopyUp

class Kernel (σ : Type) where
  /-- The answer to a call, and the kernel afterwards. -/
  answer : (call : Call) → σ → Except Errno call.Reply × σ
  /-- How many more interruptions and filled directory buffers may come at most. -/
  patience : σ → Nat
  patience_answer_le (call : Call) (kernel : σ) :
    patience (answer call kernel).2 ≤ patience kernel
  patience_lt_of_interrupted {call : Call} {kernel : σ}
    (interrupted : (answer call kernel).1 = .error .eintr) :
    patience (answer call kernel).2 < patience kernel
  patience_lt_of_filled {fd : Descriptor} {capacity : Nat} {kernel : σ} {bytes : Bytes}
    (filled : (answer (.getdents64 fd capacity) kernel).1 = .ok bytes) (nonempty : bytes ≠ []) :
    patience (answer (.getdents64 fd capacity) kernel).2 < patience kernel
  written_le {fd : Descriptor} {bytes : Bytes} {kernel : σ} {count : Nat}
    (written : (answer (.write fd bytes) kernel).1 = .ok count) : count ≤ bytes.length
  pwritten_le {fd : Descriptor} {bytes : Bytes} {offset : Nat} {kernel : σ} {count : Nat}
    (written : (answer (.pwrite fd bytes offset) kernel).1 = .ok count) : count ≤ bytes.length
  filled_le {fd : Descriptor} {capacity : Nat} {kernel : σ} {bytes : Bytes}
    (filled : (answer (.getdents64 fd capacity) kernel).1 = .ok bytes) : bytes.length ≤ capacity

end CopyUp
