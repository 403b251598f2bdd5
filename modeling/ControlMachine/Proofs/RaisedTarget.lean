import ControlMachine.Proofs.FixedArithmetic
import ControlMachine.Proofs.RepeatedTick
import ControlMachine.Proofs.Untied

/- Two computations that differ in the target alone. The higher target gives an integral and an output
   that are no lower, since gains that are not negative and limits keep the order, unless a sum was
   turned around in one of them and not in the other. The error, the integral and the output are such
   sums; what overflows between them is made up for. -/
namespace ControlMachine

namespace Fixed
variable {k x y : Fixed}

theorem scaled_mono (gain : 0 ≤ k.units) (le : x.units ≤ y.units) :
    (k.units * x.units).tdiv 256 ≤ (k.units * y.units).tdiv 256 :=
  Int.tdiv_le_tdiv (by decide) (Int.mul_le_mul_of_nonneg_left le gain)

end Fixed

namespace Controller
variable {c : Controller Fixed} {input low high : Fixed}

def integralUnits (c : Controller Fixed) (input setpoint : Fixed) : Int :=
  c.integral.units + (c.ki.units * (setpoint - input).units).tdiv 256

def outputUnits (c : Controller Fixed) (input setpoint : Fixed) : Int :=
  (c.kp.units * (setpoint - input).units).tdiv 256 + (c.respond input setpoint).1.units -
    (c.kd * (input - c.lastInput)).units

theorem respond_integral (c : Controller Fixed) (input setpoint : Fixed) :
    (c.respond input setpoint).1 =
      Rational.clamp (Fixed.ofUnits (c.integralUnits input setpoint)) c.lower c.upper := by
  rw [integralUnits, Fixed.ofUnits_add, Fixed.ofUnits_units, ← Fixed.mul_def]
  rfl

theorem respond_output (c : Controller Fixed) (input setpoint : Fixed) :
    (c.respond input setpoint).2 =
      Rational.clamp (Fixed.ofUnits (c.outputUnits input setpoint)) c.lower c.upper := by
  rw [outputUnits, Fixed.ofUnits_sub, Fixed.ofUnits_add, Fixed.ofUnits_units, Fixed.ofUnits_units,
    ← Fixed.mul_def]
  rfl

/-- The error and the integral are turned around equally often for both targets. -/
structure TurnedAlike (c : Controller Fixed) (input low high : Fixed) : Prop where
  error : Fixed.turns (low.units - input.units) = Fixed.turns (high.units - input.units)
  integral : Fixed.turns (c.integralUnits input low) = Fixed.turns (c.integralUnits input high)

theorem error_mono (same : c.TurnedAlike input low high) (raised : low.units ≤ high.units) :
    (low - input).units ≤ (high - input).units :=
  Fixed.ofUnits_mono same.error (by omega)

theorem integral_mono (gain : 0 ≤ c.ki.units) (limits : c.lower.units ≤ c.upper.units)
    (same : c.TurnedAlike input low high) (raised : low.units ≤ high.units) :
    (c.respond input low).1.units ≤ (c.respond input high).1.units := by
  have scaled := Fixed.scaled_mono gain (error_mono same raised)
  have sums : c.integralUnits input low ≤ c.integralUnits input high := by
    unfold integralUnits
    omega
  rw [respond_integral, respond_integral]
  exact Fixed.clamp_mono limits (Fixed.ofUnits_mono same.integral sums)

theorem output_mono (gains : 0 ≤ c.kp.units ∧ 0 ≤ c.ki.units)
    (limits : c.lower.units ≤ c.upper.units) (same : c.TurnedAlike input low high)
    (output : Fixed.turns (c.outputUnits input low) = Fixed.turns (c.outputUnits input high))
    (raised : low.units ≤ high.units) :
    (c.respond input low).2.units ≤ (c.respond input high).2.units := by
  have scaled := Fixed.scaled_mono gains.1 (error_mono same raised)
  have integrals := integral_mono gains.2 limits same raised
  have sums : c.outputUnits input low ≤ c.outputUnits input high := by
    unfold outputUnits
    omega
  rw [respond_output, respond_output]
  exact Fixed.clamp_mono limits (Fixed.ofUnits_mono output sums)

/-- Two stores that are the same but for the target, which is no lower in the second one. The input
    shares no bytes with the target. -/
structure RaisesTarget (c : Controller Fixed) (first second : Store) (input low high : Fixed) :
    Prop where
  elsewhere : Memory.SameButCell first.memory second.memory c.setpoint
  apart : c.input.toNat + 4 ≤ c.setpoint.toNat ∨ c.setpoint.toNat + 4 ≤ c.input.toNat
  measured : first.memory.loadRational c.input = .ok input
  wanted : first.memory.loadRational c.setpoint = .ok low
  raised : second.memory.loadRational c.setpoint = .ok high
  order : low.units ≤ high.units

theorem response_of_compute {store : Store} {now : UInt64} {after : Controller Fixed}
    {written : Memory} {setpoint : Fixed} (measured : store.memory.loadRational c.input = .ok input)
    (wanted : store.memory.loadRational c.setpoint = .ok setpoint)
    (done : c.compute store now = .ok true (after, written)) :
    after.integral = (c.respond input setpoint).1 ∧
      written.loadRational c.output = .ok (c.respond input setpoint).2 := by
  rcases compute_ok done with ⟨refused, -⟩ | ⟨-, -, -, -, x, y, loaded, aimed, stored, rfl⟩
  · cases refused
  · rw [measured] at loaded
    rw [wanted] at aimed
    cases loaded
    cases aimed
    exact ⟨rfl, Memory.loadRational_of_stored stored⟩

/-- A higher target does not lower the integral, nor the output, unless it makes a sum turn around. -/
theorem output_follows_target {first second : Store} {now : UInt64}
    {after₁ after₂ : Controller Fixed} {written₁ written₂ : Memory} (gains : 0 ≤ c.kp.units ∧ 0 ≤ c.ki.units)
    (limits : c.lower.units ≤ c.upper.units) (raises : c.RaisesTarget first second input low high)
    (done₁ : c.compute first now = .ok true (after₁, written₁))
    (done₂ : c.compute second now = .ok true (after₂, written₂))
    (same : c.TurnedAlike input low high) :
    after₁.integral.units ≤ after₂.integral.units ∧
      ∃ u₁ u₂ : Fixed, written₁.loadRational c.output = .ok u₁ ∧
        written₂.loadRational c.output = .ok u₂ ∧
        (Fixed.turns (c.outputUnits input low) = Fixed.turns (c.outputUnits input high) →
          u₁.units ≤ u₂.units) := by
  have measured : second.memory.loadRational c.input = .ok input :=
    (Memory.loadRational_congr raises.elsewhere.size (raises.elsewhere.slice raises.apart)).trans
      raises.measured
  obtain ⟨integral₁, output₁⟩ := response_of_compute raises.measured raises.wanted done₁
  obtain ⟨integral₂, output₂⟩ := response_of_compute measured raises.raised done₂
  refine ⟨?_, _, _, output₁, output₂, ?_⟩
  · rw [integral₁, integral₂]
    exact integral_mono gains.2 limits same raises.order
  · intro outputs
    exact output_mono gains limits same outputs raises.order

def aimedAt (target : Fixed) : Store :=
  ⟨(Memory.ofCapacity 12).patch 8 (LittleEndian.bytes 4 (Rational.toBits target).toNat), .ofSize 1⟩

def eager : Controller Fixed :=
  ([.init ⟨0, 4, 8, .ofUnits 25600, .ofUnits 25600, 0, 1000, .direct, 0, .ofUnits 25600⟩ 1000,
    .setMode .automatic] : List (ControlEvent Fixed 12)).foldl ControlLoop.react
      ⟨.fresh 0, aimedAt 0⟩ |>.controller

theorem aimedAt_stored (target : Fixed) :
    (Memory.ofCapacity 12).storeRational 8 target = .ok (aimedAt target).memory :=
  Memory.write_eq_ok.mpr ⟨by rw [LittleEndian.length_bytes]; decide, rfl⟩

theorem aimedAt_elsewhere (target : Fixed) :
    Memory.SameButCell (Memory.ofCapacity 12) (aimedAt target).memory 8 :=
  Memory.sameButCell_of_overwritten (Memory.storeRational_overwritten (aimedAt_stored target))

theorem raisesTarget_aimedAt (order : low.units ≤ high.units) :
    eager.RaisesTarget (aimedAt low) (aimedAt high) 0 low high where
  elsewhere := (aimedAt_elsewhere low).symm.trans (aimedAt_elsewhere high)
  apart := Or.inl (by decide)
  measured := by
    have empty : (Memory.ofCapacity 12).loadRational (R := Fixed) 0 = .ok 0 := by rfl
    have kept := aimedAt_elsewhere low
    exact (Memory.loadRational_congr kept.size (kept.slice (Or.inl (by decide)))).trans empty
  wanted := Memory.loadRational_of_stored (aimedAt_stored low)
  raised := Memory.loadRational_of_stored (aimedAt_stored high)
  order := order

/-- From 10 to 20 units nothing overflows. -/
theorem output_follows_target_near :
    ∃ after₁ written₁ after₂ written₂,
      eager.compute (aimedAt (.ofUnits 10)) 1000 = .ok true (after₁, written₁) ∧
      eager.compute (aimedAt (.ofUnits 20)) 1000 = .ok true (after₂, written₂) ∧
      after₁.integral.units ≤ after₂.integral.units ∧
      ∃ u₁ u₂ : Fixed, written₁.loadRational 4 = .ok u₁ ∧ written₂.loadRational 4 = .ok u₂ ∧
        u₁.units ≤ u₂.units := by
  have order : (Fixed.ofUnits 10).units ≤ (Fixed.ofUnits 20).units := by decide
  have same : eager.TurnedAlike 0 (.ofUnits 10) (.ofUnits 20) := {
    error := by
      rw [Fixed.turns_eq_zero (by decide) (by decide), Fixed.turns_eq_zero (by decide) (by decide)]
    integral := by decide +kernel }
  have wrote₁ := Outcome.eq_ok_of_answer
    (show (eager.compute (aimedAt (.ofUnits 10)) 1000).answer = .ok true by decide +kernel)
  have wrote₂ := Outcome.eq_ok_of_answer
    (show (eager.compute (aimedAt (.ofUnits 20)) 1000).answer = .ok true by decide +kernel)
  obtain ⟨integrals, u₁, u₂, left₁, left₂, outputs⟩ := output_follows_target
    ⟨by decide, by decide⟩ (by decide) (raisesTarget_aimedAt order) wrote₁ wrote₂ same
  exact ⟨_, _, _, _, wrote₁, wrote₂, integrals, u₁, u₂, left₁, left₂, outputs (by decide +kernel)⟩

/-- The errors are 80000 and 90000. A hundred times the first one is still a number, and a hundred
    times the second one has come around to the negative numbers. -/
theorem higher_target_lowers_output :
    eager.Active ∧ eager.direction = .direct ∧ 0 ≤ eager.kp.units ∧ 0 ≤ eager.ki.units ∧
      eager.RaisesTarget (aimedAt (.ofUnits 20480000)) (aimedAt (.ofUnits 23040000)) 0
        (.ofUnits 20480000) (.ofUnits 23040000) ∧
      ∃ after₁ written₁ after₂ written₂,
        eager.compute (aimedAt (.ofUnits 20480000)) 1000 = .ok true (after₁, written₁) ∧
        eager.compute (aimedAt (.ofUnits 23040000)) 1000 = .ok true (after₂, written₂) ∧
        after₂.integral.units < after₁.integral.units ∧
        ∃ u₁ u₂ : Fixed, written₁.loadRational 4 = .ok u₁ ∧ written₂.loadRational 4 = .ok u₂ ∧
          u₂.units < u₁.units := by
  have wrote₁ := Outcome.eq_ok_of_answer
    (show (eager.compute (aimedAt (.ofUnits 20480000)) 1000).answer = .ok true by decide +kernel)
  have wrote₂ := Outcome.eq_ok_of_answer
    (show (eager.compute (aimedAt (.ofUnits 23040000)) 1000).answer = .ok true by decide +kernel)
  refine ⟨⟨rfl, rfl⟩, rfl, by decide, by decide, raisesTarget_aimedAt (by decide), _, _, _, _,
    wrote₁, wrote₂, by decide +kernel, .ofUnits 25600, 0, ?_, ?_, by decide⟩
  · decide +kernel
  · decide +kernel

end Controller
end ControlMachine
