import Mathlib.Data.List.Induction
import ControlMachine.Network.Requests
import ControlMachine.Proofs.Remapping
import ControlMachine.Proofs.SlotStatus

/- A slot for one transfer, from the map that made it on. The network reports completions and errors,
   the program polls, and other slots are changed in between, all in any order. The first poll that
   finds the slot done without an error gives it up, and no other poll sees it so. -/
namespace ControlMachine

namespace TableStep

/-- With the slot nothing is done but polls that may give it up and reports, none of them with the
    code that stands for no mapping. -/
def permits (id : UInt8) : TableStep → Bool
  | complete _ => true
  | fail other code => other != id || code &&& 0x80 == 0
  | check other release => other != id || release
  | map other _ | unmap other => other != id

def completes (id : UInt8) : TableStep → Bool
  | complete other => other == id
  | _ => false

def reports (id : UInt8) : TableStep → Bool
  | complete other | fail other _ => other == id
  | _ => false

def errs (id : UInt8) : TableStep → Bool
  | fail other code => other == id && code &&& 0xFE != 0
  | _ => false

/-- The steps after the last completion without an error, the newest first; without any, all. -/
def sinceCompletion (id : UInt8) (steps : List TableStep) : List TableStep :=
  steps.reverse.takeWhile fun step => !step.completes id

def endCleanly (id : UInt8) (steps : List TableStep) : Bool :=
  steps.any (reports id) && (sinceCompletion id steps).all fun step => !step.errs id

variable {id : UInt8} {step : TableStep}

theorem sinceCompletion_append (id : UInt8) (steps : List TableStep) (step : TableStep) :
    sinceCompletion id (steps ++ [step]) =
      if step.completes id then [] else step :: sinceCompletion id steps := by
  cases done : step.completes id <;> simp [sinceCompletion, done]

theorem unconcerned (differs : step.id ≠ id) :
    step.completes id = false ∧ step.reports id = false ∧ step.errs id = false := by
  cases step <;> simp_all [TableStep.id, completes, reports, errs]

end TableStep

namespace MappingTable
open TableStep Mapping
variable {t start : MappingTable} {id : UInt8} {request m : Mapping} {steps : List TableStep}
  {step : TableStep} {seen : List UInt8}

def answer (t : MappingTable) (id : UInt8) : TableStep → List UInt8
  | .check other release =>
    if other = id then
      match t.check id release with
      | .ok (status, _) => [status]
      | .error _ => []
    else []
  | _ => []

def answers (id : UInt8) (t : MappingTable) : List TableStep → List UInt8
  | [] => []
  | step :: steps => t.answer id step ++ answers id (t.take step) steps

theorem answers_append (t : MappingTable) (steps : List TableStep) (step : TableStep) :
    answers id t (steps ++ [step]) = answers id t steps ++ (steps.foldl take t).answer id step := by
  induction steps generalizing t with
  | nil => simp [answers]
  | cons first steps ih => simp [answers, ih]

theorem answer_elsewhere (t : MappingTable) (differs : step.id ≠ id) : t.answer id step = [] := by
  cases step with
  | check other release =>
    have apart : other ≠ id := differs
    simp [answer, apart]
  | _ => rfl

theorem answer_check (found : t.slot? id = some m) (release : Bool) :
    t.answer id (.check id release) = [(m.poll release).1] := by
  simp [answer, check_of_slot found]

/-- What has become of the slot: it still waits, with the status of the reports so far, or the one
    poll that saw it done has given it up. -/
inductive Course (id : UInt8) (request : Mapping) (steps : List TableStep) (seen : List UInt8) :
    Mapping → Prop where
  | waiting (status : UInt8) (unseen : done ∉ seen) (mapped : status &&& 0x80 = 0)
      (reported : status ≠ 0 ↔ steps.any (reports id) = true)
      (clean : status &&& 0xFE = 0 ↔ (sinceCompletion id steps).all (fun s => !s.errs id) = true) :
      Course id request steps seen { request with status := status }
  | taken (once : seen.count done = 1) (reported : steps.any (reports id) = true) :
      Course id request steps seen unmapped

theorem course_elsewhere (course : Course id request steps seen m) (differs : step.id ≠ id) :
    Course id request (steps ++ [step]) seen m := by
  obtain ⟨notCompletion, notReport, notError⟩ := unconcerned differs
  have since : sinceCompletion id (steps ++ [step]) = step :: sinceCompletion id steps := by
    simp [sinceCompletion_append, notCompletion]
  have any : (steps ++ [step]).any (reports id) = steps.any (reports id) := by
    simp [notReport]
  cases course with
  | waiting status unseen mapped reported clean =>
    refine .waiting status unseen mapped ?_ ?_
    · rw [any]
      exact reported
    · rw [since, List.all_cons, notError]
      exact clean
  | taken once reported =>
    refine .taken once ?_
    rw [any]
    exact reported

theorem course_complete (active : request.isActive = true)
    (course : Course id request steps seen m) :
    Course id request (steps ++ [.complete id]) seen m.completed := by
  cases course with
  | waiting status unseen mapped reported clean =>
    have still := (isActive_withStatus active).mpr mapped
    rw [completed_of_active still]
    have clear : done &&& 0xFE = 0 := by decide
    refine .waiting done unseen (by decide) ?_ ?_
    · simp [reports, done]
    · simp [sinceCompletion_append, completes, clear]
  | taken once reported =>
    have same : unmapped.completed = unmapped := by decide
    rw [same]
    exact .taken once (by simp [reported])

theorem course_fail (active : request.isActive = true) (course : Course id request steps seen m)
    {code : UInt8} (permitted : code &&& 0x80 = 0) :
    Course id request (steps ++ [.fail id code]) seen (m.failed code) := by
  cases course with
  | waiting status unseen mapped reported clean =>
    have still := (isActive_withStatus active).mpr mapped
    rw [failed_of_active still]
    refine .waiting _ unseen ?_ ?_ ?_
    · rw [reported_and_eq_zero (by decide)]
      exact ⟨mapped, permitted⟩
    · have finished : (steps ++ [TableStep.fail id code]).any (reports id) = true := by simp [reports]
      exact ⟨fun _ => finished, fun _ => reported_ne_zero status code⟩
    · rw [reported_and_eq_zero (by decide), clean, sinceCompletion_append]
      simp [completes, errs, and_comm]
  | taken once reported =>
    have inactive : unmapped.isActive = false := isActive_unmapped
    have same : unmapped.failed code = unmapped := by simp [failed, inactive]
    rw [same]
    exact .taken once (by simp [reported])

/-- A poll that finds the slot done takes it; any other one sees its status and leaves it. -/
theorem course_check (active : request.isActive = true) (single : request.isOnce = true)
    (course : Course id request steps seen m) :
    Course id request (steps ++ [.check id true]) (seen ++ [(m.poll true).1]) (m.poll true).2 := by
  have since : sinceCompletion id (steps ++ [TableStep.check id true]) =
      TableStep.check id true :: sinceCompletion id steps := by
    simp [sinceCompletion_append, completes]
  have any : (steps ++ [TableStep.check id true]).any (reports id) = steps.any (reports id) := by
    simp [reports]
  cases course with
  | waiting status unseen mapped reported clean =>
    have still := (isActive_withStatus active).mpr mapped
    by_cases finished : status = done
    · rw [poll_of_done still single finished]
      refine .taken ?_ ?_
      · simp [List.count_append, List.count_eq_zero.mpr unseen]
      · rw [any, ← reported, finished]
        decide
    · rw [poll_of_other still finished]
      refine .waiting status ?_ mapped ?_ ?_
      · simp [unseen, Ne.symm finished]
      · rw [any]
        exact reported
      · rw [since, clean]
        simp [errs]
  | taken once reported =>
    rw [poll_of_inactive isActive_unmapped]
    refine .taken ?_ ?_
    · rw [List.count_append, once]
      rfl
    · rw [any]
      exact reported

theorem course_step (active : request.isActive = true) (single : request.isOnce = true)
    (permitted : step.permits id = true) (found : t.slot? id = some m)
    (course : Course id request steps seen m) :
    ∃ next, (t.take step).slot? id = some next ∧
      Course id request (steps ++ [step]) (seen ++ t.answer id step) next := by
  by_cases own : step.id = id
  · have changed := slot?_take_self t step
    rw [own, found] at changed
    refine ⟨step.change m, changed, ?_⟩
    cases step with
    | map other | unmap other => simp_all [permits, TableStep.id]
    | complete other =>
      have same : other = id := own
      subst same
      have silent : t.answer other (.complete other) = [] := rfl
      rw [silent, List.append_nil]
      exact course_complete active course
    | fail other code =>
      have same : other = id := own
      subst same
      have safe : code &&& 0x80 = 0 := by simpa [permits] using permitted
      have silent : t.answer other (.fail other code) = [] := rfl
      rw [silent, List.append_nil]
      exact course_fail active course safe
    | check other release =>
      have same : other = id := own
      subst same
      have releasing : release = true := by simpa [permits] using permitted
      subst releasing
      rw [answer_check found]
      exact course_check active single course
  · refine ⟨m, ?_, ?_⟩
    · rw [slot?_take_other t (Ne.symm own)]
      exact found
    · rw [answer_elsewhere t own, List.append_nil]
      exact course_elsewhere course own

/-- By induction from the last step on, since what counts are the steps before it. -/
theorem course_steps (active : request.isActive = true) (single : request.isOnce = true)
    (made : start.slot? id = some request.fresh)
    (permitted : ∀ step ∈ steps, step.permits id = true) :
    ∃ m, (steps.foldl take start).slot? id = some m ∧
      Course id request steps (answers id start steps) m := by
  induction steps using List.reverseRecOn with
  | nil =>
    refine ⟨request.fresh, made, ?_⟩
    exact .waiting 0 (by simp [answers]) (by decide) (by simp) (by simp [sinceCompletion])
  | append_singleton steps step ih =>
    obtain ⟨m, found, course⟩ := ih fun earlier among => permitted earlier (by simp [among])
    rw [answers_append, List.foldl_append]
    exact course_step active single (permitted step (by simp)) found course

/-- A slot that asks for a request is active, and without a status if it asks only once. -/
theorem pending_slot {memory : Memory} {r : ClientRequest}
    (listed : r ∈ Store.pendingRequests ⟨memory, t⟩) :
    ∃ m, t.slot? r.id = some m ∧ m.isActive = true ∧ (m.status = 0 ∨ m.isOnce = false) := by
  obtain ⟨⟨m, i⟩, placed, asked⟩ := List.mem_filterMap.mp listed
  have found : t.slots[i]? = some m := List.mem_zipIdx_iff_getElem?.mp placed
  have small : i < 16 := by
    have inside := (List.getElem?_eq_some_iff.mp found).1
    have few := t.few
    omega
  obtain ⟨u, wanted, rest⟩ := Option.bind_eq_some_iff.mp asked
  obtain ⟨method, -, rest⟩ := Option.bind_eq_some_iff.mp rest
  obtain ⟨host, -, rest⟩ := Option.bind_eq_some_iff.mp rest
  obtain ⟨resource, -, rest⟩ := Option.bind_eq_some_iff.mp rest
  cases rest
  have conditions : (m.isActive && m.isClient && (m.status == 0 || !m.isOnce)) = true := by
    by_contra no
    simp [guard, no] at wanted
  simp only [Bool.and_eq_true, Bool.or_eq_true, beq_iff_eq, Bool.not_eq_true'] at conditions
  have place : (UInt8.ofNat i).toNat = i := by
    rw [UInt8.toNat_ofNat']
    omega
  refine ⟨m, ?_, conditions.1.1, conditions.2⟩
  rw [slot?, place]
  exact found

theorem course_silent (single : request.isOnce = true) (found : t.slot? id = some m)
    (course : Course id request steps seen m) (finished : steps.any (reports id) = true)
    (memory : Memory) : ∀ r ∈ Store.pendingRequests ⟨memory, t⟩, r.id ≠ id := by
  intro r listed same
  obtain ⟨n, here, active, asking⟩ := pending_slot listed
  rw [same, found] at here
  cases here
  cases course with
  | waiting status unseen mapped reported clean =>
    rcases asking with unreported | always
    · exact reported.mpr finished unreported
    · have once : request.isOnce = false := always
      rw [single] at once
      cases once
  | taken once reported =>
    rw [isActive_unmapped] at active
    cases active

/-- Where a slot for one transfer stands after such steps. -/
structure SeenOnce (id : UInt8) (request : Mapping) (start : MappingTable)
    (steps : List TableStep) (t : MappingTable) : Prop where
  waiting : done ∉ answers id start steps → ∃ m, t.slot? id = some m ∧
    m.isActive = true ∧ m.fresh = request.fresh ∧
    (m.status = done ↔ endCleanly id steps = true) ∧
    (m.status ≠ done → t.check id true = .ok (m.status, t)) ∧
    (m.status = done → t.check id true = .ok (done, t.set id unmapped))
  taken : done ∈ answers id start steps →
    t.slot? id = some unmapped ∧ t.check id true = .ok (0, t)
  once : (answers id start steps).count done ≤ 1
  silent : steps.any (reports id) = true →
    ∀ memory, ∀ r ∈ Store.pendingRequests ⟨memory, t⟩, r.id ≠ id

theorem seenOnce_of_course (active : request.isActive = true) (single : request.isOnce = true)
    (found : t.slot? id = some m)
    (course : Course id request steps (answers id start steps) m) :
    SeenOnce id request start steps t := by
  constructor
  case waiting =>
    intro unseen
    cases course with
    | taken once reported =>
      rw [List.count_eq_zero.mpr unseen] at once
      cases once
    | waiting status unseen mapped reported clean =>
      have still := (isActive_withStatus active).mpr mapped
      refine ⟨_, found, still, rfl, ?_, ?_, ?_⟩
      · rw [eq_done_iff, reported, clean, endCleanly, Bool.and_eq_true]
      · intro unfinished
        rw [check_of_slot found, poll_of_other still unfinished, set_self found]
      · intro finished
        rw [check_of_slot found, poll_of_done still single finished]
  case taken =>
    intro seen
    cases course with
    | waiting status unseen mapped reported clean => exact absurd seen unseen
    | taken once reported =>
      refine ⟨found, ?_⟩
      rw [check_of_slot found, poll_of_inactive isActive_unmapped, set_self found]
  case once =>
    cases course with
    | waiting status unseen mapped reported clean =>
      rw [List.count_eq_zero.mpr unseen]
      omega
    | taken once reported => omega
  case silent =>
    intro finished memory
    exact course_silent single found course finished memory

/-- From the map on that makes an active slot for one transfer, whatever the network reports and
    however often the program polls, one poll at most sees the slot done, and that is the first one
    that could. -/
theorem clean_completion_seen_once (before start : MappingTable) (id : UInt8) (request : Mapping)
    (steps : List TableStep) (made : before.attempt (.map id request) = .ok start)
    (active : request.fresh.isActive = true) (single : request.isOnce = true)
    (permitted : ∀ step ∈ steps, step.permits id = true) :
    SeenOnce id request.fresh start steps (steps.foldl take start) := by
  have fresh : start.slot? id = some request.fresh := by
    rw [attempt_eq_update] at made
    obtain ⟨old, found, rfl⟩ := update_eq_ok.mp made
    exact slot?_set_self found _
  obtain ⟨m, found, course⟩ := course_steps active single fresh permitted
  exact seenOnce_of_course active single found course

def wanted : Mapping := ⟨4, 0x18, 112, 256, 288, 5683, 0⟩

def wanting : MappingTable := (ofSize 4).take (.map 3 wanted)

def retried : List TableStep :=
  [.fail 3 0x04, .check 3 true, .complete 3, .unmap 2, .fail 3 0x00, .check 3 true, .complete 3]

theorem clean_completion_seen_once_retried :
    (ofSize 4).attempt (.map 3 wanted) = .ok wanting ∧
      answers 3 wanting retried = [0x05, 0x01] ∧
      (retried.foldl take wanting).check 3 true = .ok (0, retried.foldl take wanting) ∧
      ∀ memory, ∀ r ∈ Store.pendingRequests ⟨memory, retried.foldl take wanting⟩, r.id ≠ 3 := by
  have made : (ofSize 4).attempt (.map 3 wanted) = .ok wanting := by rfl
  have seen : answers 3 wanting retried = [0x05, 0x01] := by decide +kernel
  have course := clean_completion_seen_once (ofSize 4) wanting 3 wanted retried made
    (by decide) (by decide) (by decide)
  have taken : done ∈ answers 3 wanting retried := by
    rw [seen]
    decide
  exact ⟨made, seen, (course.taken taken).2, course.silent (by decide)⟩

end MappingTable
end ControlMachine
