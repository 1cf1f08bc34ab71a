import Lochan.Isolation
import Lochan.Mpmc.Parking
import Lochan.Mpsc.Parking
import Lochan.Oneshot.Value
import Lochan.Oneshot.Atomic
import Lochan.Queue.Memory
import Lochan.Queue.Words
import Lochan.Sends
import Lochan.Borrows
import Lochan.Closing
import Lochan.Inert
import Lochan.Capacity
import Lochan.Twins
import Lochan.Receives
import Lochan.Idle
import Lochan.Backpressure
import Lochan.Deadlock
