import AndroidRemote.Display.Mapping
import AndroidRemote.Native.ScreenRecord

/-! The mapping that start-up makes, along the runs of the process in which the screen is panned. -/

namespace AndroidRemote.Native

open AndroidRemote.Display AndroidRemote.Library

variable {out : Out} {w : ℕ}

def Pans (s : FbVarScreeninfo) : Event → Prop
  | .updateScreen (some s') => ∃ xoffset yoffset, s' = { s with xoffset := xoffset, yoffset := yoffset } ∧
      xoffset + s.xres ≤ s.xresVirtual ∧ yoffset + s.yres ≤ max s.yresVirtual (2 * s.yres)
  | _ => True

def Daemon.ReadsMapped (mapped : ℕ) (d : Daemon out) : Event → Prop
  | .updateScreen (some s') => d.running = true → d.fb.rotation = 0 → d.fb.testMode = 0 →
      ∀ p ∈ FbVncServer.fbIndices { d.fb with scrinfo := s' }, 0 ≤ p ∧ (p + 1) * (out.bits / 8 : ℕ) ≤ mapped
  | _ => True

lemma Pans.keepsScreen {s : FbVarScreeninfo} {e : Event} (h : Pans s e) : KeepsScreen s e := by
  cases e with
  | updateScreen ioctl =>
    cases ioctl with
    | none => trivial
    | some s' =>
      obtain ⟨xoffset, yoffset, rfl, -, -⟩ := h
      exact ⟨rfl, rfl, rfl, rfl, rfl, rfl⟩
  | _ => trivial

lemma initFbServer_bits {s : FbVarScreeninfo} {rotation scaling : ℕ} {testMode : ℤ}
    {fbmmap : (out : Out) → Memory (OutT out)} {d : Daemon out}
    (hs : s.bitsPerPixel = 8 ∨ s.bitsPerPixel = 16 ∨ s.bitsPerPixel = 32)
    (h : initFbServer s rotation scaling testMode fbmmap = some ⟨out, d⟩) : s.bitsPerPixel = out.bits := by
  rw [initFbServer, Option.map_eq_some_iff] at h
  obtain ⟨selected, hselect, heq⟩ := h
  obtain rfl : selected = out := congrArg Sigma.fst heq
  have hdepth : (startScreen rotation s).serverFormat.bitsPerPixel = s.bitsPerPixel := by
    simp only [startScreen]
    rcases hs with hs | hs | hs <;> split_ifs <;> rw [hs] <;> rfl
  rw [hdepth] at hselect
  rcases hs with hs | hs | hs <;> rw [hs] at hselect ⊢ <;> cases hselect <;> rfl

lemma Daemon.readsMapped (hw : 32 ≤ w) {s : FbVarScreeninfo} {d : Daemon out} (hd : d.Steady s)
    (hbits : s.bitsPerPixel = out.bits) (hx : 1 ≤ s.xres) (hy : 1 ≤ s.yres) {lineLength k : ℕ}
    (hl : s.xresVirtual * s.bitsPerPixel / 8 ≤ lineLength)
    (hb : lineLength * max s.yresVirtual (2 * s.yres) + 2 ^ k < 2 ^ 31) {e : Event} (he : Pans s e) :
    d.ReadsMapped (fbSize w lineLength (2 ^ k) s).toNat e := by
  cases e with
  | updateScreen ioctl =>
    cases ioctl with
    | none => trivial
    | some s' =>
      obtain ⟨xoffset, yoffset, rfl, hc, hv⟩ := he
      intro _ hr ht p hp
      have hfitted : FbVncServer.Fitted { d.fb with scrinfo := s } :=
        ⟨hbits, FbVncServer.turnedSize_area hd.installed.size⟩
      exact d.fb.fbIndices_mapped hw hr ht hfitted hx hy hl hb hc hv hp
  | _ => trivial

theorem mapping_covers_scan (hw : 32 ≤ w) {s : FbVarScreeninfo} (options : List ℤ) {scaling : ℕ} {testMode : ℤ}
    {fbmmap : (out : Out) → Memory (OutT out)} {d : Daemon out}
    (h : initFbServer s (options.foldl acceptRotation 0) scaling testMode fbmmap = some ⟨out, d⟩)
    (hs : s.bitsPerPixel = 8 ∨ s.bitsPerPixel = 16 ∨ s.bitsPerPixel = 32) (hx : 1 ≤ s.xres) (hy : 1 ≤ s.yres)
    {lineLength k : ℕ} (hl : s.xresVirtual * s.bitsPerPixel / 8 ≤ lineLength)
    (hb : lineLength * max s.yresVirtual (2 * s.yres) + 2 ^ k < 2 ^ 31) {es : List Event}
    (hes : ∀ e ∈ es, Pans s e) :
    Along step (Daemon.ReadsMapped (fbSize w lineLength (2 ^ k) s).toNat) d es := by
  have hbits := initFbServer_bits hs h
  have hpans : Along step (fun _ e => Pans s e) d es := along_of_forall hes
  exact hpans.of_invariant (Daemon.Steady s) (fun d e hd he => d.step_steady he.keepsScreen hd)
    (fun d e hd he => Daemon.readsMapped hw hd hbits hx hy hl hb he) (initFbServer_steady h)

def lowerPage : List Event := [.updateScreen (some { twoRows with yoffset := 2 })]

theorem mapping_covers_scan_panned :
    ∃ d : Daemon .out8, initFbServer twoRows 0 100 0 (fun _ _ => 0) = some ⟨.out8, d⟩ ∧
      Along step (Daemon.ReadsMapped (fbSize 32 1 (2 ^ 12) twoRows).toNat) d lowerPage := by
  have hstart : initFbServer twoRows (List.foldl acceptRotation 0 []) 100 0 (fun _ _ => 0) = some ⟨.out8, _⟩ := rfl
  refine ⟨_, hstart, mapping_covers_scan (by decide) [] hstart (.inl rfl) (by decide) (by decide) (by decide)
    (by decide) ?_⟩
  intro e he
  rw [lowerPage, List.mem_singleton] at he
  subst he
  exact ⟨0, 2, rfl, by decide, by decide⟩

end AndroidRemote.Native
