import Jetpack.Go.Host
import Jetpack.Go.Fmt
import Jetpack.VM.Machine
import Jetpack.VM.Bundle
import Jetpack.VM.Negotiate
import Jetpack.VM.Devices
import Jetpack.VM.Start
import Jetpack.VM.FirstStart
import Jetpack.VM.Stop
import Jetpack.VM.Lifecycle
import Jetpack.VM.Configuration
import Jetpack.Envsec.Exec
import Jetpack.VM.Effects
import Jetpack.VM.VariableStore
import Jetpack.VM.Restart
