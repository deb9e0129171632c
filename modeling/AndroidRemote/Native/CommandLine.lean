import AndroidRemote.Library.Fallible
import AndroidRemote.Library.Text
import AndroidRemote.Native.ScreenRecord
import AndroidRemote.Service.World

/-! The command line that `VncServerWrapper.startVncServer` writes to the shell, and the option
loop of `main`. -/

namespace AndroidRemote.Service

open AndroidRemote.Library

namespace VncServerWrapper

variable (w : VncServerWrapper)

def passwordCheck : List Char := []

def rotationOption : List Char := "-r ".toList ++ decimal w.rotation

def scalingString : List Char := if w.scaleFactor ≠ 100 then "-s ".toList ++ decimal w.scaleFactor else []

def portString : List Char := "-P ".toList ++ decimal w.listeningPort

def testmode : List Char := "-t ".toList ++ "0".toList

def commandLine (filesDir : List Char) : List Char :=
  filesDir ++ "/androidvncserver ".toList ++ passwordCheck ++ " ".toList ++ w.rotationOption ++
    " ".toList ++ w.scalingString ++ " ".toList ++ w.portString ++ " ".toList ++ testmode

end VncServerWrapper

end AndroidRemote.Service

namespace AndroidRemote.Native

open AndroidRemote.Library AndroidRemote.Service

structure Options where
  vncPassword : List Char
  framebufferDevice : List Char
  vncPort : ℤ
  rotation : ℕ
  scaling : ℕ
  testMode : ℤ
  deriving DecidableEq, Repr

def Options.initial : Options := ⟨[], "/dev/graphics/fb0".toList, 5901, 0, 100, 0⟩

/-- Why the loop is not left: the help is printed, `argv[argc]` is used as a string, or `strcpy`
writes beyond its 256 bytes. -/
inductive Stop
  | help
  | noValue
  | overflow
  deriving DecidableEq, Repr

def acceptScaling (r : ℤ) : ℕ := if r ≥ 1 ∧ r ≤ 150 then r.toNat else 100

def strcpy256 (src : List Char) : Except Stop (List Char) := if src.length < 256 then .ok src else .error .overflow

def takesValue (c : Char) : Bool := ['p', 'f', 'P', 'r', 's', 't'].contains c

def Options.set (o : Options) (c : Char) (value : List Char) : Except Stop Options :=
  if c = 'p' then (strcpy256 value).map (fun s => { o with vncPassword := s })
  else if c = 'f' then (strcpy256 value).map (fun s => { o with framebufferDevice := s })
  else if c = 'P' then .ok { o with vncPort := atoi value }
  else if c = 'r' then .ok { o with rotation := acceptRotation o.rotation (atoi value) }
  else if c = 's' then .ok { o with scaling := acceptScaling (atoi value) }
  else if c = 't' then .ok { o with testMode := atoi value }
  else .ok o

def optionLoop (o : Options) : List (List Char) → Except Stop Options
  | [] => .ok o
  | ('-' :: c :: _) :: args =>
    if c = 'h' then .error .help
    else if takesValue c then
      match args with
      | [] => .error .noValue
      | value :: args => o.set c value >>= fun o => optionLoop o args
    else optionLoop o args
  | _ :: args => optionLoop o args

def parseArguments (argv : List (List Char)) : Except Stop Options := optionLoop .initial (argv.drop 1)

lemma optionLoop_value (o : Options) {c : Char} (hc : takesValue c = true) (value : List Char)
    (args : List (List Char)) :
    optionLoop o (['-', c] :: value :: args) = o.set c value >>= fun o => optionLoop o args := by
  have hhelp : c ≠ 'h' := by
    rintro rfl
    exact absurd hc (by decide)
  rw [optionLoop, if_neg hhelp, if_pos hc]

lemma words_option {c : Char} (hc : c ≠ ' ') (n : ℤ) :
    words (['-', c, ' '] ++ decimal n) = [['-', c], decimal n] := by
  have hsplit : ['-', c, ' '] ++ decimal n = ['-', c] ++ ' ' :: decimal n := rfl
  rw [hsplit, words_append, words_single (by simp) (by simpa using hc.symm),
    words_single (decimal_ne_nil n) (blank_notMem_decimal n)]
  rfl

lemma words_commandLine (w : VncServerWrapper) {filesDir : List Char} (h : ' ' ∉ filesDir) :
    words (w.commandLine filesDir) = (filesDir ++ "/androidvncserver".toList) ::
      ["-r".toList, decimal w.rotation] ++
      (if w.scaleFactor ≠ 100 then ["-s".toList, decimal w.scaleFactor] else []) ++
      ["-P".toList, decimal w.listeningPort, "-t".toList, "0".toList] := by
  have hblanks : w.commandLine filesDir = (filesDir ++ "/androidvncserver".toList) ++ ' ' ::
      (VncServerWrapper.passwordCheck ++ ' ' :: (w.rotationOption ++ ' ' ::
        (w.scalingString ++ ' ' :: (w.portString ++ ' ' :: VncServerWrapper.testmode)))) := by
    simp [VncServerWrapper.commandLine]
  have hprogram : words (filesDir ++ "/androidvncserver".toList) = [filesDir ++ "/androidvncserver".toList] := by
    apply words_single
    · simp
    · rw [List.mem_append]
      exact not_or.mpr ⟨h, by decide⟩
  have hscaling : words w.scalingString =
      if w.scaleFactor ≠ 100 then ["-s".toList, decimal w.scaleFactor] else [] := by
    rw [VncServerWrapper.scalingString]
    split_ifs
    · exact words_option (by decide) w.scaleFactor
    · exact words_nil
  rw [hblanks, words_append, words_append, words_append, words_append, words_append, hprogram, hscaling,
    VncServerWrapper.rotationOption, VncServerWrapper.portString]
  rw [show "-r ".toList = ['-', 'r', ' '] from rfl, show "-P ".toList = ['-', 'P', ' '] from rfl,
    words_option (by decide), words_option (by decide)]
  simp [VncServerWrapper.passwordCheck, words_nil]
  rfl

lemma optionLoop_port (o : Options) (port : List Char) :
    optionLoop o ["-P".toList, port, "-t".toList, "0".toList] =
      .ok { o with vncPort := atoi port, testMode := 0 } := by
  have hport := optionLoop_value o (c := 'P') (by decide) port ["-t".toList, "0".toList]
  have htest := optionLoop_value { o with vncPort := atoi port } (c := 't') (by decide) "0".toList []
  have hzero : atoi ['0'] = 0 := by decide
  refine hport.trans (htest.trans ?_)
  simp [Options.set, optionLoop, hzero]

lemma optionLoop_scaling (o : Options) (s : ℤ) (args : List (List Char)) (ho : o.scaling = 100) :
    optionLoop o ((if s ≠ 100 then ["-s".toList, decimal s] else []) ++ args) =
      optionLoop { o with scaling := if s ≠ 100 then acceptScaling (atoi (decimal s)) else 100 } args := by
  split_ifs
  · exact optionLoop_value o (c := 's') (by decide) (decimal s) args
  · rw [← ho]
    rfl

lemma acceptRotation_cast {r : ℤ} (hr : 0 ≤ r) :
    (acceptRotation 0 r : ℤ) = if r ∈ [0, 90, 180, 270] then r else 0 := by
  simp only [acceptRotation, List.mem_cons, List.not_mem_nil, or_false]
  split_ifs <;> omega

lemma acceptScaling_cast (s : ℤ) : (acceptScaling s : ℤ) = if 1 ≤ s ∧ s ≤ 150 then s else 100 := by
  rw [acceptScaling]
  split_ifs <;> omega

theorem launch_round_trip (w : VncServerWrapper) {filesDir : List Char} (hd : ' ' ∉ filesDir)
    (hp : 0 < w.listeningPort ∧ w.listeningPort < 2 ^ 31) (hs : 0 < w.scaleFactor ∧ w.scaleFactor < 2 ^ 31)
    (hr : 0 ≤ w.rotation ∧ w.rotation < 2 ^ 31) :
    ∃ o, parseArguments (words (w.commandLine filesDir)) = .ok o ∧
      o.vncPort = w.listeningPort ∧ o.testMode = 0 ∧
      (o.scaling : ℤ) = (if 1 ≤ w.scaleFactor ∧ w.scaleFactor ≤ 150 then w.scaleFactor else 100) ∧
      (o.rotation : ℤ) = (if w.rotation ∈ [0, 90, 180, 270] then w.rotation else 0) ∧
      o.vncPassword = [] ∧ o.framebufferDevice = Options.initial.framebufferDevice := by
  have hport := atoi_decimal hp.1.le hp.2
  have hscale := atoi_decimal hs.1.le hs.2
  have hrotation := atoi_decimal hr.1 hr.2
  let o : Options :=
    { Options.initial with
      vncPort := w.listeningPort
      testMode := 0
      scaling := if w.scaleFactor ≠ 100 then acceptScaling w.scaleFactor else 100
      rotation := acceptRotation 0 w.rotation }
  refine ⟨o, ?_, rfl, rfl, ?_, acceptRotation_cast hr.1, rfl, rfl⟩
  · rw [parseArguments, words_commandLine w hd]
    have hrest := optionLoop_value .initial (c := 'r') (by decide) (decimal w.rotation)
      ((if w.scaleFactor ≠ 100 then ["-s".toList, decimal w.scaleFactor] else []) ++
        ["-P".toList, decimal w.listeningPort, "-t".toList, "0".toList])
    refine hrest.trans ?_
    have hset : Options.initial.set 'r' (decimal w.rotation) =
        .ok { Options.initial with rotation := acceptRotation 0 (atoi (decimal w.rotation)) } := rfl
    rw [hrotation] at hset
    rw [hset, ok_bind, optionLoop_scaling _ _ _ rfl, optionLoop_port, hport, hscale]
  · have hcast := acceptScaling_cast w.scaleFactor
    simp only [o]
    split_ifs at hcast ⊢ <;> omega

theorem launch_round_trip_landscape :
    ∃ o, parseArguments (words (VncServerWrapper.commandLine ⟨5901, 50, 90⟩ "/data/files".toList)) = .ok o ∧
      o.vncPort = 5901 ∧ o.testMode = 0 ∧
      (o.scaling : ℤ) = (if (1 : ℤ) ≤ 50 ∧ (50 : ℤ) ≤ 150 then 50 else 100) ∧
      (o.rotation : ℤ) = (if (90 : ℤ) ∈ [0, 90, 180, 270] then 90 else 0) ∧
      o.vncPassword = [] ∧ o.framebufferDevice = Options.initial.framebufferDevice :=
  launch_round_trip ⟨5901, 50, 90⟩ (by decide) (by decide) (by decide) (by decide)

end AndroidRemote.Native
