import Penrose.AudioParams
import Penrose.BluetoothPort

/-! The output streams of the Bluetooth audio HAL: writing, standby, pausing and resuming, and the parameters that
suspend them. -/

namespace Penrose.Bluetooth

variable {O : Type}

inductive AudioFormat where
  | pcm16Bit | pcm24BitPacked | pcm824Bit | pcm32Bit
  | other (value : Nat)

inductive AudioChannelMask where
  | outMono | outStereo
  | other (value : Nat)

/-- `audio_config_t`. -/
structure AudioConfig where
  sampleRate : Nat
  channelMask : AudioChannelMask
  format : AudioFormat

/-! ### The data path -/

/-- What a turn of the writing loop finds: whether the session is ready, the room in the queue and whether a write
to it succeeds. -/
structure QueueTurn where
  isReady : Bool
  availableToWrite : Nat
  writes : Bool

def kFmqSendTimeoutMs : Nat := 1000

def kWritePollMs : Nat := 1

/-- The loop of `OutWritePcmData`, which returns when the turns are used up as it does when the session ends; with
the number of bytes written before, and the bytes that it writes. -/
def writeTurns (buffer : List UInt8) : Nat → Nat → List QueueTurn → Nat × List UInt8
  | totalWritten, _, [] => (totalWritten, [])
  | totalWritten, timeoutMs, turn :: turns =>
      if !turn.isReady then (totalWritten, [])
      else if turn.availableToWrite ≠ 0 then
        let numBytesToWrite := min turn.availableToWrite (buffer.length - totalWritten)
        if !turn.writes then (totalWritten, [])
        else
          let written := (buffer.drop totalWritten).take numBytesToWrite
          if totalWritten + numBytesToWrite < buffer.length then
            let (total, rest) := writeTurns buffer (totalWritten + numBytesToWrite) timeoutMs turns
            (total, written ++ rest)
          else (totalWritten + numBytesToWrite, written)
      else if kWritePollMs ≤ timeoutMs then writeTurns buffer totalWritten (timeoutMs - kWritePollMs) turns
      else (totalWritten, [])

/-- `OutWritePcmData`: how many bytes it writes, and which. -/
def outWritePcmData (buffer : List UInt8) (turns : List QueueTurn) : Nat × List UInt8 :=
  if buffer.length ≤ 0 then (0, []) else writeTurns buffer 0 kFmqSendTimeoutMs turns

/-- `downmix_to_mono_i16_from_stereo_i16`, with the mix of the samples of one frame. -/
def downmixToMono (mix : UInt8 × UInt8 → UInt8 × UInt8 → UInt8 × UInt8) : List UInt8 → List UInt8
  | left :: left' :: right :: right' :: rest =>
      (mix (left, left') (right, right')).1 :: (mix (left, left') (right, right')).2 :: downmixToMono mix rest
  | _ => []

namespace BluetoothAudioPortAidl

/-- `BluetoothAudioPortAidlOut::WriteData`: what it returns, and the bytes that it hands to the queue. -/
def writeData (mix : UInt8 × UInt8 → UInt8 × UInt8 → UInt8 × UInt8) (port : BluetoothAudioPortAidl)
    (buffer : List UInt8) (turns : List QueueTurn) : Nat × List UInt8 :=
  if !port.inUse then (0, [])
  else if !port.isStereoToMono then outWritePcmData buffer turns
  else
    let writeFrames := buffer.length / 4
    if writeFrames = 0 then (0, [])
    else
      let (written, bytes) := outWritePcmData (downmixToMono mix buffer) turns
      (written * 2, bytes)

end BluetoothAudioPortAidl

/-! ### The streams -/

/-- `BluetoothStreamOut` over a port. -/
structure BluetoothStreamOut (Port : Type) where
  bluetoothOutput : Port
  lastWriteTimeUs : Int
  sampleRate : Nat
  channelMask : AudioChannelMask
  format : AudioFormat
  preferredDataIntervalUs : Nat
  framesCount : Nat
  framesRendered : Nat
  framesPresented : Nat

def eio : Int := 5
def ebusy : Int := 16
def einval : Int := 22
def enosys : Int := 38

/-- What a write finds: how the stack answers if the stream has to be started first, the turns of the data path, what
`LoadAudioConfig` loads, the frame size of the stream and the time. -/
structure WriteEnv (O : Type) where
  answer : Answer O
  turns : List QueueTurn
  loaded : Option AudioConfig
  frameSize : Nat
  now : Int

abbrev AidlStreamOut := BluetoothStreamOut BluetoothAudioPortAidl

namespace BluetoothStreamOut

variable {Port : Type}

def outGetSampleRate (out : BluetoothStreamOut Port) (loaded : Option AudioConfig) : Nat :=
  match loaded with
  | some audioCfg => audioCfg.sampleRate
  | none => out.sampleRate

def state (out : AidlStreamOut) : BluetoothStreamState := out.bluetoothOutput.state

/-- `out_standby` and `out_pause`. -/
def suspendOutput (out : AidlStreamOut) (answer : Answer O) : AidlStreamOut × Int :=
  match out.state with
  | .started =>
      let (port, suspended) := out.bluetoothOutput.suspend answer
      ({ out with bluetoothOutput := port, framesRendered := 0 }, if suspended then 0 else -eio)
  | .starting | .suspending => (out, -ebusy)
  | _ => (out, 0)

def outStandby (out : AidlStreamOut) (answer : Answer O) : AidlStreamOut × Int := out.suspendOutput answer

def outPause (out : AidlStreamOut) (answer : Answer O) : AidlStreamOut × Int := out.suspendOutput answer

def outResume (out : AidlStreamOut) (answer : Answer O) : AidlStreamOut × Int :=
  match out.state with
  | .standby =>
      let (port, started) := out.bluetoothOutput.start answer
      ({ out with bluetoothOutput := port }, if started then 0 else -eio)
  | .starting | .suspending => (out, -ebusy)
  | .disabled => (out, -einval)
  | _ => (out, 0)

def stopOutput (out : AidlStreamOut) : AidlStreamOut :=
  if out.state ≠ .disabled then
    { out with framesRendered := 0, framesPresented := 0, bluetoothOutput := out.bluetoothOutput.stop }
  else out

def a2dpSuspendedKey : List Char := "A2dpSuspended".toList

def setA2dpSuspended (out : AidlStreamOut) (value : List Char) (answer : Answer O) : AidlStreamOut :=
  if value = "true".toList then
    match out.state with
    | .started =>
        { out with
          framesRendered := 0
          bluetoothOutput := (out.bluetoothOutput.suspend answer).1.setState .disabled }
    | .disabled => { out with framesRendered := 0 }
    | _ => { out with framesRendered := 0, bluetoothOutput := out.bluetoothOutput.stop }
  else
    match out.state with
    | .disabled => { out with bluetoothOutput := out.bluetoothOutput.setState .standby }
    | _ => out

/-- What `out_set_parameters` does first: where the framework asks for what is supported, the stream takes the
configuration that is loaded. -/
def reloadConfig (out : AidlStreamOut) (params : AudioParams) (loaded : Option AudioConfig) : AidlStreamOut :=
  if "sup_sampling_rates".toList ∈ params ∨ "sup_channels".toList ∈ params ∨ "sup_formats".toList ∈ params then
    match loaded with
    | some audioCfg =>
        { out with
          sampleRate := audioCfg.sampleRate
          channelMask := audioCfg.channelMask
          format := audioCfg.format }
    | none => out
  else out

/-- What it does next. -/
def suspendByParams (out : AidlStreamOut) (params : AudioParams) (answer : Answer O) : AidlStreamOut :=
  match params.lookup a2dpSuspendedKey with
  | some value => if !out.bluetoothOutput.isA2dp then out else out.setA2dpSuspended value answer
  | none => out

/-- What it does last, where the stream is closing or exiting. -/
def stopByParams (out : AidlStreamOut) (params : AudioParams) : AidlStreamOut :=
  let out := if params.lookup "closing".toList = some "true".toList then out.stopOutput else out
  if params.lookup "exiting".toList = some "1".toList then out.stopOutput else out

/-- `out_set_parameters`, which returns 0 whatever happens. -/
def outSetParameters (out : AidlStreamOut) (kvpairs : List Char) (loaded : Option AudioConfig)
    (answer : Answer O) : AidlStreamOut :=
  let params := parseAudioParams kvpairs
  if params.keys.isEmpty then out
  else ((out.reloadConfig params loaded).suspendByParams params answer).stopByParams params

/-- `out_write` once the stream is started. -/
def writeStarted (mix : UInt8 × UInt8 → UInt8 × UInt8 → UInt8 × UInt8) (out : AidlStreamOut) (buffer : List UInt8)
    (env : WriteEnv O) : AidlStreamOut × Int × List UInt8 :=
  let (totalWritten, written) := out.bluetoothOutput.writeData mix buffer env.turns
  if totalWritten ≠ 0 then
    let frames := buffer.length / env.frameSize
    ({ out with
        framesRendered := out.framesRendered + frames
        framesPresented := out.framesPresented + frames
        lastWriteTimeUs := env.now }, totalWritten, written)
  else
    let elapsedTimeSinceLastWrite := env.now - out.lastWriteTimeUs
    let playTime := buffer.length * 1000000 / env.frameSize / out.outGetSampleRate env.loaded
    let sleepTime : Int := playTime - elapsedTimeSinceLastWrite
    ({ out with lastWriteTimeUs := env.now + max sleepTime 0 }, totalWritten, written)

/-- `out_write`: the stream after it, what it returns and the bytes that reach the queue. -/
def outWrite (mix : UInt8 × UInt8 → UInt8 × UInt8 → UInt8 × UInt8) (out : AidlStreamOut) (buffer : List UInt8)
    (env : WriteEnv O) : AidlStreamOut × Int × List UInt8 :=
  if out.state ≠ .started then
    let (out, failed) := out.outResume env.answer
    if failed ≠ 0 then (out, if out.state = .disabled then buffer.length else 0, [])
    else out.writeStarted mix buffer env
  else out.writeStarted mix buffer env

end BluetoothStreamOut

end Penrose.Bluetooth
