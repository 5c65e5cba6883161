import CertifiedAccess.Proofs.Wire.Requests

/-!
The discipline of a reader that is asked one thing after another. Mark and position stay in their order and
within the input; what is read is what lies between the old position and the new one; and a return goes to where
the mark was last set.
-/
namespace CertifiedAccess.Wire

namespace Reader

/-- The mark is not ahead of the position, nor the position of the input's end. -/
structure InBounds (r : Reader) : Prop where
  mark : r.mark ≤ r.position
  position : r.position ≤ r.input.length

theorem inBounds_ofBytes (input : Bytes) : (ofBytes input).InBounds :=
  ⟨Nat.le_refl 0, Nat.zero_le _⟩

theorem advances_iff_extract {r next : Reader} {octets : Bytes} (bounds : r.InBounds) :
    r.Advances octets next ↔ r.position ≤ next.position ∧ next.position ≤ r.input.length ∧
      octets = r.input.extract r.position next.position ∧
      next = { r with position := next.position } := by
  have inside := bounds.position
  constructor
  · intro moved
    have between := moved.extract_eq.symm
    obtain ⟨stands, rfl⟩ := moved
    have size := stands.length_le
    rw [List.length_drop] at size
    refine ⟨Nat.le_add_right _ _, ?_, between, rfl⟩
    change r.position + octets.length ≤ r.input.length
    omega
  · rintro ⟨forward, inside', rfl, same⟩
    rw [List.extract_eq_take_drop]
    refine ⟨List.take_prefix _ _, ?_⟩
    have size : ((r.input.drop r.position).take (next.position - r.position)).length =
        next.position - r.position := by
      rw [List.length_take, List.length_drop]
      omega
    rw [size, Nat.add_sub_cancel' forward]
    exact same

/-- What one request may do to a reader, and what it then says. -/
inductive Step (r : Reader) : Request → Except WireError Answer → Reader → Prop where
  | marked : Step r .setMark (.ok .done) { r with mark := r.position }
  | returned : Step r .toMark (.ok .done) { r with position := r.mark }
  | took {request : Request} {answer : Answer} {last : Nat} (forward : r.position ≤ last)
    (inside : last ≤ r.input.length)
    (takes : request.Takes answer (r.input.extract r.position last)) :
    Step r request (.ok answer) { r with position := last }
  | refused {request : Request} {e : WireError} {gone : Nat} (refused : request.Refused r e gone) :
    Step r request (.error e) { r with position := r.position + gone }

section
variable {r next : Reader} {request : Request} {outcome : Except WireError Answer}

theorem ask_eq_iff (bounds : r.InBounds) :
    request.ask r = (outcome, next) ↔ r.Step request outcome next := by
  cases outcome with
  | ok answer =>
    rw [Request.ask_eq_ok_iff]
    constructor
    · intro done
      cases reads : request.isRead with
      | true =>
        obtain ⟨octets, takes, moved⟩ := (Request.accepts reads r answer next).mp done
        obtain ⟨forward, inside, rfl, same⟩ := (advances_iff_extract bounds).mp moved
        rw [same]
        exact .took forward inside takes
      | false =>
        cases request with
        | setMark =>
          cases done
          exact .marked
        | toMark =>
          cases done
          exact .returned
        | _ => contradiction
    · intro step
      cases step with
      | marked => rfl
      | returned => rfl
      | took forward inside takes =>
        refine (Request.accepts takes.isRead r answer _).mpr ⟨_, takes, ?_⟩
        exact (advances_iff_extract bounds).mpr ⟨forward, inside, rfl, rfl⟩
  | error e =>
    rw [Request.ask_eq_error_iff, Request.read_eq_error_iff]
    constructor
    · rintro ⟨gone, refused, rfl⟩
      exact .refused refused
    · intro step
      cases step with
      | refused refused => exact ⟨_, refused, rfl⟩

theorem step_ask (bounds : r.InBounds) (request : Request) :
    r.Step request (request.ask r).1 (request.ask r).2 :=
  (ask_eq_iff bounds).mp rfl

namespace Step

theorem input_eq (step : r.Step request outcome next) : next.input = r.input := by
  cases step <;> rfl

theorem mark_eq (step : r.Step request outcome next) (other : request ≠ .setMark) :
    next.mark = r.mark := by
  cases step with
  | marked => exact absurd rfl other
  | returned => rfl
  | took forward inside takes => rfl
  | refused refused => rfl

theorem inBounds (step : r.Step request outcome next) (bounds : r.InBounds) : next.InBounds := by
  obtain ⟨ordered, inside⟩ := bounds
  cases step with
  | marked => exact ⟨Nat.le_refl _, inside⟩
  | returned => exact ⟨Nat.le_refl _, Nat.le_trans ordered inside⟩
  | took forward inside' takes => exact ⟨Nat.le_trans ordered forward, inside'⟩
  | @refused _ _ gone refused =>
    have there := refused.gone_le
    rw [remaining] at there
    constructor
    · exact Nat.le_trans ordered (Nat.le_add_right _ _)
    · change r.position + gone ≤ r.input.length
      omega

end Step
end

/-- The reader that a list of requests leaves behind. -/
def after (r : Reader) (requests : List Request) : Reader :=
  requests.foldl (fun r request => (request.ask r).2) r

section
variable {r : Reader}

theorem after_append (first second : List Request) :
    r.after (first ++ second) = (r.after first).after second :=
  List.foldl_append

theorem askAll_append (first second : List Request) :
    r.askAll (first ++ second) = r.askAll first ++ (r.after first).askAll second := by
  induction first generalizing r with
  | nil => rfl
  | cons request rest ih =>
    rw [List.cons_append, askAll, askAll, ih]
    rfl

theorem length_askAll (requests : List Request) : (r.askAll requests).length = requests.length := by
  induction requests generalizing r with
  | nil => rfl
  | cons request rest ih => rw [askAll, List.length_cons, ih, List.length_cons]

theorem getElem?_askAll (before : List Request) (request : Request) (rest : List Request) :
    (r.askAll (before ++ request :: rest))[before.length]? = some (request.ask (r.after before)) := by
  have size : (r.askAll before).length = before.length := length_askAll before
  rw [askAll_append, List.getElem?_append_right (Nat.le_of_eq size), size, Nat.sub_self]
  rfl

theorem inBounds_after (bounds : r.InBounds) (requests : List Request) :
    (r.after requests).InBounds := by
  induction requests generalizing r with
  | nil => exact bounds
  | cons request rest ih => exact ih ((step_ask bounds request).inBounds bounds)

theorem input_after (bounds : r.InBounds) (requests : List Request) :
    (r.after requests).input = r.input := by
  induction requests generalizing r with
  | nil => rfl
  | cons request rest ih =>
    have step := step_ask bounds request
    exact (ih (step.inBounds bounds)).trans step.input_eq

theorem mark_after (bounds : r.InBounds) {requests : List Request} (unmarked : .setMark ∉ requests) :
    (r.after requests).mark = r.mark := by
  induction requests generalizing r with
  | nil => rfl
  | cons request rest ih =>
    rw [List.mem_cons, not_or] at unmarked
    have step := step_ask bounds request
    exact (ih (step.inBounds bounds) unmarked.2).trans (step.mark_eq (Ne.symm unmarked.1))

end

/-- Whatever a reader has been asked before, mark and position are in their order and within the input, which is
as it was, and to the next request it does exactly what a step does. The mark is where it was last set, or at the
start. -/
theorem ask_disciplined (input : Bytes) (before : List Request) (request : Request)
    (rest : List Request) :
    ∃ r, r = (ofBytes input).after before ∧
      ((ofBytes input).askAll (before ++ request :: rest))[before.length]? = some (request.ask r) ∧
      r.input = input ∧ r.mark ≤ r.position ∧ r.position ≤ input.length ∧
      r.position + r.remaining = input.length ∧
      (∀ outcome next, request.ask r = (outcome, next) ↔ r.Step request outcome next) ∧
      (.setMark ∉ before → r.mark = 0) ∧
      ∀ earlier later, before = earlier ++ .setMark :: later → .setMark ∉ later →
        r.mark = ((ofBytes input).after earlier).position := by
  have start := inBounds_ofBytes input
  have bounds := inBounds_after start before
  have same := input_after start before
  have inside := Nat.le_trans bounds.position (Nat.le_of_eq (congrArg List.length same))
  refine ⟨_, rfl, getElem?_askAll before request rest, same, bounds.mark, inside, ?_,
    fun outcome next => ask_eq_iff bounds, fun unmarked => mark_after start unmarked, ?_⟩
  · rw [remaining, same, Nat.add_sub_cancel' inside]
    rfl
  · rintro earlier later rfl unmarked
    have there := inBounds_after start (earlier ++ [.setMark])
    rw [after_append] at there
    rw [List.append_cons, after_append, after_append]
    exact mark_after there unmarked

end Reader

/-! A text that is none behind an octet: the reader has it behind itself and can go back to where it began. -/
namespace Rereading

/-- An octet, then a field of two octets that are no text, then one more octet. -/
def input : Bytes := [7, 0, 0, 0, 2, 0xC3, 0x28, 9]

/-- The reader behind the first octet, where the mark is set. -/
def marked : Reader := ⟨input, 1, 1⟩

/-- The reader behind the field. -/
def stopped : Reader := ⟨input, 7, 1⟩

theorem after_setMark : (Reader.ofBytes input).after [.u8, .setMark] = marked := by
  decide +kernel

theorem after_text : (Reader.ofBytes input).after [.u8, .setMark, .text] = stopped := by
  decide +kernel

theorem refused_text : Request.text.Refused marked .invalidUtf8 (4 + 2) := by
  have fits : ([0xC3, 0x28] : Bytes).length ≤ maxFieldLength := by decide
  have stands : Bytes.bigEndian 4 2 ++ [0xC3, 0x28] <+: input.drop 1 := by decide +kernel
  refine .notUtf8 fits stands fun value same => ?_
  have unread : Text.ofUtf8? [0xC3, 0x28] = none := by decide +kernel
  rw [← same, Text.ofUtf8?_utf8] at unread
  contradiction

theorem ask_toMark_stopped :
    Request.text.ask marked = (.error .invalidUtf8, stopped) ∧
      stopped.mark = ((Reader.ofBytes input).after [.u8]).position ∧
      Request.toMark.ask stopped = (.ok .done, marked) := by
  obtain ⟨_, left, -, -, -, -, -, steps, -, -⟩ :=
    Reader.ask_disciplined input [.u8, .setMark] .text []
  rw [after_setMark] at left
  subst left
  obtain ⟨_, left, -, -, -, -, -, steps', -, last⟩ :=
    Reader.ask_disciplined input [.u8, .setMark, .text] .toMark []
  rw [after_text] at left
  subst left
  exact ⟨(steps _ _).mpr (.refused refused_text), last [.u8] [.text] rfl (by decide),
    (steps' _ _).mpr .returned⟩

end Rereading
end CertifiedAccess.Wire
