import AndroidRemote.Native.Daemon

/-! Whether a process that still runs can be connected to. -/

namespace AndroidRemote.Native

open AndroidRemote.Display AndroidRemote.Input AndroidRemote.Library AndroidRemote.Rfb

variable {out : Out}

namespace Daemon

variable {d : Daemon out}

/-- The process is in the process list, which is all that `isRunning` looks at. -/
def Accepts (d : Daemon out) : Prop := d.running = true → d.listening = true

def StaysOpen (d : Daemon out) : Event → Prop
  | .keyEvent k _ key => d.running = true → d.isConnected k = true → key ≠ 0xffc8
  | _ => True

def KeepsSocket (d d' : Daemon out) : Prop := d'.listening = d.listening ∨ d'.running = false

lemma accepts_of_keepsSocket {d' : Daemon out} (hr : d.running = true) (h : d.Accepts) (hk : d.KeepsSocket d') :
    d'.Accepts := by
  intro hr'
  rcases hk with hl | hn
  · exact hl.trans (h hr)
  · rw [hn] at hr'
    cases hr'

lemma keyevent_keepsSocket (down : Bool) {key : ℕ} (h : key ≠ 0xffc8) : d.KeepsSocket (d.keyevent down key) := by
  have hcommand := (command_shutdown_iff key).not.mpr h
  rw [keyevent, KeepsSocket]
  rcases d.perform_cases down (keysym2scancode key).command with hp | hp | ⟨hc, -⟩ | ⟨fb, -, -, -, hp⟩
  · exact .inl (by rw [hp])
  · exact .inr (by rw [hp]; rfl)
  · exact absurd hc hcommand
  · exact .inl (by rw [hp])

lemma keyevent_closes (down : Bool) : (d.keyevent down 0xffc8).listening = false ∧
    (d.keyevent down 0xffc8).running = d.running := by
  have hcommand := (command_shutdown_iff 0xffc8).mpr rfl
  simp only [keyevent, hcommand]
  exact ⟨rfl, rfl⟩

lemma step_keepsSocket {e : Event} (hr : d.running = true) (h : d.StaysOpen e) : d.KeepsSocket (step d e) := by
  have hchange := step_change e hr
  generalize step d e = d' at hchange
  cases hchange with
  | stays => exact .inl rfl
  | ends => exact .inr rfl
  | records e clients => exact .inl rfl
  | arrives a =>
    rcases d.rfbNewClient_cases a with heq | heq | ⟨clients, -, heq⟩
    · exact .inl (by rw [heq])
    · exact .inr (by rw [heq]; rfl)
    · exact .inl (by rw [heq]; rfl)
  | key k down key hc => exact keyevent_keepsSocket down (h hr hc)
  | points k buttonMask x y hc =>
    rcases d.rfbPointerEvent_cases k buttonMask x y with heq | ⟨cl, -, -, heq⟩
    · exact .inl (by rw [heq])
    · exact .inl (by rw [heq]; rfl)
  | leaves k localSocket hc =>
    rcases d.rfbClientConnectionGone_cases k localSocket with heq | ⟨cl, -, heq⟩
    · exact .inl (by rw [heq])
    · exact .inl (by rw [heq]; rfl)
  | draws ioctl fb hfb => exact .inl rfl

lemma accepts_iff (d : Daemon out) (e : Event) (h : d.Accepts) : (step d e).Accepts ↔ d.StaysOpen e := by
  by_cases hr : d.running = true
  · constructor
    · intro ha
      cases e with
      | keyEvent k down key =>
        rintro - hc rfl
        have hcloses := d.keyevent_closes down
        have hstep : step d (.keyEvent k down 0xffc8) = d.keyevent down 0xffc8 := by simp [step, hr, hc]
        rw [hstep, Accepts, hcloses.1, hcloses.2] at ha
        cases ha hr
      | _ => trivial
    · exact fun hs => accepts_of_keepsSocket hr h (step_keepsSocket hr hs)
  · rw [step_ended e hr]
    refine iff_of_true h ?_
    cases e with
    | keyEvent k down key => exact fun hr' => absurd hr' hr
    | _ => trivial

end Daemon

theorem running_server_accepts (fb : FbVncServer out) (bufferSize scaling : ℕ) (es : List Event) :
    Along step (fun d e => (step d e).Accepts) (.started fb bufferSize scaling) es ↔
      Along step Daemon.StaysOpen (.started fb bufferSize scaling) es :=
  along_congr Daemon.Accepts (fun _ _ _ h => h) Daemon.accepts_iff (fun _ => rfl)

def pressesF11 : List Event := [.connects ⟨true, true, true, true⟩, .keyEvent 0 true 0xffc8]

theorem f11_leaves_a_deaf_server :
    (run step (.started watchedServer 32 100) pressesF11).running = true ∧
    ¬ Along step (fun d e => (step d e).Accepts) (.started watchedServer 32 100) pressesF11 := by
  refine ⟨rfl, ?_⟩
  rintro ⟨-, haccepts, -⟩
  cases haccepts rfl

end AndroidRemote.Native
