import Playhouse.Main
import Playhouse.Proofs.Block.Label
import Playhouse.Proofs.Block.Token
import Playhouse.Proofs.Box
import Playhouse.Proofs.Stage.Account
import Playhouse.Proofs.Stage.Arena
import Playhouse.Proofs.Stage.Blocked
import Playhouse.Proofs.Stage.Bounce
import Playhouse.Proofs.Stage.Collision
import Playhouse.Proofs.Stage.Duration
import Playhouse.Proofs.Stage.Entrance
import Playhouse.Proofs.Stage.Equal
import Playhouse.Proofs.Stage.Finished
import Playhouse.Proofs.Stage.Held
import Playhouse.Proofs.Stage.Idle
import Playhouse.Proofs.Stage.Interchange
import Playhouse.Proofs.Stage.Intermission
import Playhouse.Proofs.Stage.Log
import Playhouse.Proofs.Stage.Loop
import Playhouse.Proofs.Stage.Pace
import Playhouse.Proofs.Stage.Placement
import Playhouse.Proofs.Stage.Pose
import Playhouse.Proofs.Stage.Quiet
import Playhouse.Proofs.Stage.Recital
import Playhouse.Proofs.Stage.Reset
import Playhouse.Proofs.Stage.Restored
import Playhouse.Proofs.Stage.Saved
import Playhouse.Proofs.Stage.Speech
import Playhouse.Proofs.Stage.Tampered
import Playhouse.Proofs.Tick.Timer
