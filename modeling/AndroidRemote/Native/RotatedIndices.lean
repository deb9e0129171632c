import AndroidRemote.Display.Indices
import AndroidRemote.Native.ScreenRecord

/-! The buffers of a rotated `update_screen`, along the runs of the process. -/

namespace AndroidRemote.Native

open AndroidRemote.Display AndroidRemote.Input AndroidRemote.Library AndroidRemote.Rfb

variable {out : Out}

/-- The static `i` of `update_screen` is an `int`. -/
def Daemon.ColumnInt (d : Daemon out) : Prop := -2 ^ 31 ≤ d.fb.i ∧ d.fb.i < 2 ^ 31

namespace Daemon

variable {d : Daemon out}

lemma ColumnInt.draws (h : d.ColumnInt) {s : FbVarScreeninfo} (hs : s.Addressable) :
    -2 ^ 31 ≤ (FbVncServer.draw { d.fb with scrinfo := s }).i ∧
      (FbVncServer.draw { d.fb with scrinfo := s }).i < 2 ^ 31 := by
  have hi : (FbVncServer.draw { d.fb with scrinfo := s }).i = (FbVncServer.scan { d.fb with scrinfo := s }).i := rfl
  rcases FbVncServer.scan_i { d.fb with scrinfo := s } with hkept | ⟨hrows, hwidth⟩
  · rw [hi, hkept]
    exact h
  · have hx : s.xres < 2 ^ 31 := (Nat.le_mul_of_pos_right _ hrows).trans_lt hs.window
    have hcolumn : -2 ^ 31 ≤ (s.xres : ℤ) ∧ (s.xres : ℤ) < 2 ^ 31 := ⟨by omega, by omega⟩
    rw [hi, hwidth]
    exact hcolumn

end Daemon

end AndroidRemote.Native
