import Penrose.GptFailSafe
import Penrose.GptBootLun
import Penrose.GptCommit
import Penrose.GptTransfers
import Penrose.GptLuns
import Penrose.GptPartitionMap
import Penrose.ShoulderKeyRuns
import Penrose.ShoulderKeyMode
import Penrose.BluetoothProviders
import Penrose.BluetoothObservers
import Penrose.BluetoothPorts
import Penrose.BluetoothCounters
import Penrose.BluetoothDivisors
import Penrose.BluetoothLegacy
import Penrose.BluetoothPcmTranslation
import Penrose.BluetoothStreams
import Penrose.BluetoothHidlSession
import Penrose.BluetoothDownmix
import Penrose.PowerHintLocks
import Penrose.PowerActiveHints
import Penrose.AudioStream
import Penrose.AudioProfiles
import Penrose.DozeService
import Penrose.ShoulderKeySections
import Penrose.ShoulderKeySlots
import Penrose.ShoulderKeyEditors
import Penrose.AudioReadThread
import Penrose.GptUfs
import Penrose.PowerMetadata
import Penrose.PowerHintParser
