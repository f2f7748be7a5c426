import CopyUp.Proofs.Completion

/-!
# What a record changes

One change may take several calls: attempts that are interrupted and made again, and writes that
offer what the last one left over. Joined with the calls that only go on with them, the changing
calls of a record are the changes that it made, each with the answer that it had in the end.
-/

namespace CopyUp

namespace Asked

/-- The call is granted, and a write takes all it was offered. -/
def Granted (one : Asked) : Prop :=
  match one.exchange with
  | ⟨.write _ bytes, .ok count⟩ => count = bytes.length
  | ⟨.pwrite _ bytes _, .ok count⟩ => count = bytes.length
  | ⟨_, .ok _⟩ => True
  | ⟨_, .error _⟩ => False

/-- What two calls amount to if the second only goes on with the first: it makes an interrupted
call again, or it offers what a write left over. -/
def joined? (one next : Asked) : Option Asked :=
  if one.errno? = some .eintr ∧ next.call = one.call then some next
  else match one.exchange, next.exchange with
    | ⟨.write fd bytes, .ok count⟩, ⟨.write other rest, reply⟩ =>
      if count < bytes.length ∧ other = fd ∧ rest = bytes.drop count then
        some ⟨one.purpose, ⟨.write fd bytes, reply.map (count + ·)⟩⟩
      else none
    | ⟨.pwrite fd bytes offset, .ok count⟩, ⟨.pwrite other rest further, reply⟩ =>
      if count < bytes.length ∧ other = fd ∧ rest = bytes.drop count ∧ further = offset + count then
        some ⟨one.purpose, ⟨.pwrite fd bytes offset, reply.map (count + ·)⟩⟩
      else none
    | _, _ => none

/-- A call before others, joined with the first of them if that only goes on with it. -/
def attach (one : Asked) : List Asked → List Asked
  | [] => [one]
  | next :: rest =>
    match one.joined? next with
    | some whole => whole :: rest
    | none => one :: next :: rest

/-- The calls of a record that count, each joined with those that only go on with it. -/
def efforts (counts : Call → Bool) (asked : List Asked) : List Asked :=
  (asked.filter fun one => counts one.call).foldr attach []

def mutations (asked : List Asked) : List Asked :=
  (asked.filter fun one => one.call.mutates).foldr attach []

/-! ## Joining -/

theorem call_of_joined? {one next whole : Asked} (joined : one.joined? next = some whole) :
    whole.call = one.call := by
  unfold joined? at joined
  split at joined
  case isTrue again =>
      cases joined
      exact again.2
  case isFalse =>
      split at joined
      case h_1 same _ | h_2 same _ =>
          split at joined
          · cases joined
            simp [call, same]
          · contradiction
      case h_3 => contradiction

/-- Whatever follows, the call itself is what comes first. -/
theorem exists_attach (one : Asked) (rest : List Asked) :
    ∃ whole later, one.attach rest = whole :: later ∧ whole.call = one.call := by
  cases rest with
  | nil => exact ⟨one, [], rfl, rfl⟩
  | cons next later =>
      cases joined : one.joined? next with
      | some whole => exact ⟨whole, later, by simp [attach, joined], call_of_joined? joined⟩
      | none => exact ⟨one, next :: later, by simp [attach, joined], rfl⟩

theorem attach_of_joined?_eq_none {one : Asked} (alone : ∀ next, one.joined? next = none)
    (rest : List Asked) : one.attach rest = one :: rest := by
  cases rest with
  | nil => rfl
  | cons next later => simp [attach, alone next]

/-- A call that is granted whole leaves nothing to go on with. -/
theorem attach_of_granted {one : Asked} (granted : one.Granted) (rest : List Asked) :
    one.attach rest = one :: rest := by
  apply attach_of_joined?_eq_none
  intro next
  obtain ⟨purpose, call, reply⟩ := one
  cases reply with
  | error => cases call <;> exact granted.elim
  | ok value =>
      have calm : Asked.errno? ⟨purpose, ⟨call, .ok value⟩⟩ ≠ some .eintr := nofun
      unfold joined?
      rw [if_neg fun again => calm again.1]
      split
      case h_1 same _ | h_2 same _ =>
          cases same
          rw [if_neg fun left => Nat.ne_of_lt left.1 granted]
      case h_3 => rfl

/-- An error other than an interruption is the last word. -/
theorem attach_of_errno? {one : Asked} {errno : Errno} (refused : one.errno? = some errno)
    (other : errno ≠ .eintr) (rest : List Asked) : one.attach rest = one :: rest := by
  apply attach_of_joined?_eq_none
  intro next
  obtain ⟨purpose, call, reply⟩ := one
  cases reply with
  | ok => contradiction
  | error =>
      cases refused
      have calm : Asked.errno? ⟨purpose, ⟨call, .error errno⟩⟩ ≠ some .eintr := by
        simpa [errno?, Exchange.errno?] using other
      unfold joined?
      rw [if_neg fun again => calm again.1]
      cases call <;> rfl

theorem attach_of_interrupted {purpose : Purpose} {call : Call} {next : Asked} {rest : List Asked}
    (same : next.call = call) :
    attach ⟨purpose, ⟨call, .error .eintr⟩⟩ (next :: rest) = next :: rest := by
  have again : joined? ⟨purpose, ⟨call, .error .eintr⟩⟩ next = some next := if_pos ⟨rfl, same⟩
  simp [attach, again]

/-! ## Records -/

section Efforts

variable {counts : Call → Bool}

theorem efforts_cons {call : Call} (kept : counts call) (purpose : Purpose)
    (reply : Except Errno call.Reply) (rest : List Asked) :
    efforts counts (⟨purpose, ⟨call, reply⟩⟩ :: rest) =
      attach ⟨purpose, ⟨call, reply⟩⟩ (efforts counts rest) := by
  have kept : counts (Asked.call ⟨purpose, ⟨call, reply⟩⟩) = true := kept
  simp [efforts, kept]

/-- Calls that do not count are left out, wherever they stand. -/
theorem efforts_idle_append {idle : List Asked} (none : ∀ one ∈ idle, counts one.call = false)
    (rest : List Asked) : efforts counts (idle ++ rest) = efforts counts rest := by
  have dropped : idle.filter (fun one => counts one.call) = [] := by simpa using none
  simp [efforts, dropped]

theorem efforts_append_idle (asked : List Asked) {idle : List Asked}
    (none : ∀ one ∈ idle, counts one.call = false) :
    efforts counts (asked ++ idle) = efforts counts asked := by
  have dropped : idle.filter (fun one => counts one.call) = [] := by simpa using none
  simp [efforts, dropped]

end Efforts

@[simp] theorem mutations_nil : mutations [] = [] := rfl

/-- Calls that change nothing do not count, wherever they stand. -/
theorem mutations_append_of_still {still : List Asked}
    (none : ∀ one ∈ still, one.call.mutates = false) (rest : List Asked) :
    mutations (still ++ rest) = mutations rest :=
  efforts_idle_append none rest

theorem mutations_still_append (asked : List Asked) {still : List Asked}
    (none : ∀ one ∈ still, one.call.mutates = false) :
    mutations (asked ++ still) = mutations asked :=
  efforts_append_idle asked none

theorem mutations_of_still {still : List Asked} (none : ∀ one ∈ still, one.call.mutates = false) :
    mutations still = [] :=
  mutations_still_append [] none

end Asked

open Asked (Granted attach efforts mutations)

/-- The interruptions of a call do not count, only its last answer. -/
theorem Answered.efforts_append {purpose : Purpose} {call : Call}
    {reply : Except Errno call.Reply} {asked : List Asked}
    (answered : Answered purpose call reply asked) {counts : Call → Bool} (kept : counts call)
    (more : List Asked) :
    efforts counts (asked ++ more) = attach ⟨purpose, ⟨call, reply⟩⟩ (efforts counts more) := by
  induction answered with
  | once => exact Asked.efforts_cons kept purpose reply more
  | again _ _ ih =>
      have ⟨whole, later, same, named⟩ := Asked.exists_attach ⟨purpose, ⟨call, reply⟩⟩
        (efforts counts more)
      rw [List.cons_append, Asked.efforts_cons kept, ih, same]
      exact Asked.attach_of_interrupted named

theorem Answered.mutations_append {purpose : Purpose} {call : Call}
    {reply : Except Errno call.Reply} {asked : List Asked}
    (answered : Answered purpose call reply asked) (mutates : call.mutates) (more : List Asked) :
    mutations (asked ++ more) = attach ⟨purpose, ⟨call, reply⟩⟩ (mutations more) :=
  answered.efforts_append mutates more

namespace FileSystem

def Placement.asked (purpose : Purpose) (fd : Descriptor) (bytes : Bytes)
    (reply : Except Errno Nat) : Placement → Asked
  | next => ⟨purpose, ⟨.write fd bytes, reply⟩⟩
  | .at offset => ⟨purpose, ⟨.pwrite fd bytes offset, reply⟩⟩

theorem Placement.granted_asked (purpose : Purpose) (fd : Descriptor) (bytes : Bytes)
    (place : Placement) : (place.asked purpose fd bytes (.ok bytes.length)).Granted := by
  cases place <;> exact rfl

/-- An offer that goes on behind the bytes taken is part of the offer before it. -/
theorem Placement.attach_asked {purpose : Purpose} {fd : Descriptor} {bytes : Bytes} {count : Nat}
    (place : Placement) (less : count < bytes.length) (reply : Except Errno Nat)
    (rest : List Asked) :
    attach (place.asked purpose fd bytes (.ok count))
        ((place.advance count).asked purpose fd (bytes.drop count) reply :: rest) =
      place.asked purpose fd bytes (reply.map (count + ·)) :: rest := by
  cases place <;>
    simp [asked, advance, attach, Asked.joined?, Asked.errno?, Exchange.errno?, less]

variable {purpose : Purpose} {fd : Descriptor} {bytes : Bytes} {place : Placement}
  {asked : List Asked}

def Placement.call (fd : Descriptor) (bytes : Bytes) : Placement → Call
  | next => .write fd bytes
  | .at offset => .pwrite fd bytes offset

section Efforts

variable {counts : Call → Bool}

theorem Offered.efforts_append {reply : Except Errno Nat}
    (offered : Offered purpose fd bytes place reply asked) (kept : counts (place.call fd bytes))
    (more : List Asked) :
    efforts counts (asked ++ more) =
      attach (place.asked purpose fd bytes reply) (efforts counts more) := by
  cases offered with
  | next answered | «at» answered => exact answered.efforts_append kept more

/-- All offers of a write that works are one that is taken whole. -/
theorem Written.efforts_append {result : Except IoError Unit}
    (written : Written purpose fd place bytes result asked) (worked : result = .ok ())
    (some : bytes ≠ []) (kept : ∀ place bytes, counts (Placement.call fd bytes place))
    (more : List Asked) :
    efforts counts (asked ++ more) =
      place.asked purpose fd bytes (.ok bytes.length) :: efforts counts more := by
  induction written with
  | done | refused | stuck => contradiction
  | @took place bytes count result first rest _ _ offered later ih =>
      rw [List.append_assoc, offered.efforts_append (kept place bytes)]
      by_cases whole : count = bytes.length
      · rw [whole, List.drop_length] at later
        rw [later.of_nil.2, List.nil_append, whole]
        exact Asked.attach_of_granted (place.granted_asked ..) _
      · have less : count < bytes.length := Nat.lt_of_le_of_ne offered.le whole
        have left : bytes.drop count ≠ [] := by simpa using less
        have total : count + (bytes.length - count) = bytes.length := by omega
        rw [ih worked left, place.attach_asked less, List.length_drop]
        simp [Except.map, total]

/-- However a write ends, its offers are one. -/
theorem Written.exists_efforts {result : Except IoError Unit}
    (written : Written purpose fd place bytes result asked) (some : bytes ≠ [])
    (kept : ∀ place bytes, counts (Placement.call fd bytes place)) :
    ∃ reply, efforts counts asked = [place.asked purpose fd bytes reply] := by
  have alone : ∀ {place : Placement} {bytes : Bytes} {reply : Except Errno Nat}
      {asked : List Asked}, Offered purpose fd bytes place reply asked →
        efforts counts asked = [place.asked purpose fd bytes reply] := by
    intro place bytes reply asked offered
    have made := offered.efforts_append (kept place bytes) []
    rw [List.append_nil] at made
    exact made
  induction written with
  | done => contradiction
  | refused _ offered | stuck _ offered => exact ⟨_, alone offered⟩
  | @took place bytes count result first rest _ _ offered later ih =>
      by_cases whole : count = bytes.length
      · rw [whole, List.drop_length] at later
        rw [later.of_nil.2, List.append_nil]
        exact ⟨_, alone offered⟩
      · have less : count < bytes.length := Nat.lt_of_le_of_ne offered.le whole
        have left : bytes.drop count ≠ [] := by simpa using less
        have ⟨reply, made⟩ := ih left
        rw [offered.efforts_append (kept place bytes), made]
        exact ⟨_, place.attach_asked less reply []⟩

end Efforts

theorem Placement.mutates_call (fd : Descriptor) (place : Placement) (bytes : Bytes) :
    (place.call fd bytes).mutates := by
  cases place <;> rfl

theorem Written.mutations_append {result : Except IoError Unit}
    (written : Written purpose fd place bytes result asked) (worked : result = .ok ())
    (some : bytes ≠ []) (more : List Asked) :
    mutations (asked ++ more) =
      place.asked purpose fd bytes (.ok bytes.length) :: mutations more :=
  written.efforts_append worked some (Placement.mutates_call fd) more

theorem Written.exists_mutations {result : Except IoError Unit}
    (written : Written purpose fd place bytes result asked) (some : bytes ≠ []) :
    ∃ reply, mutations asked = [place.asked purpose fd bytes reply] :=
  written.exists_efforts some (Placement.mutates_call fd)

end FileSystem

end CopyUp
