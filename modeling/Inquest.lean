import Inquest.Config
import Inquest.Prompt.Directory
import Inquest.Rehearsal.Basic
import Inquest.Proofs.Session.Answered
import Inquest.Proofs.Client.Cuts
import Inquest.Proofs.Client.Bodies
import Inquest.Proofs.Save.Forgetting
import Inquest.Proofs.Town.Collecting
import Inquest.Proofs.Town.Founding
import Inquest.Proofs.Town.Refusing
import Inquest.Proofs.Desk.Shift
import Inquest.Proofs.World.Floor
import Inquest.Proofs.Evidence.Overwriting
import Inquest.Proofs.Evidence.Injecting
import Inquest.Proofs.Prompt.Filling
import Inquest.Proofs.Session.Log
import Inquest.Proofs.Session.Closing
import Inquest.Proofs.Session.Retrying
import Inquest.Proofs.Session.Contained
import Inquest.Proofs.World.Finding
import Inquest.Proofs.World.Posting
import Inquest.Proofs.Session.Speaking
import Inquest.Proofs.Tool.Decoding
import Inquest.Proofs.Prompt.Naming
import Inquest.Proofs.Prompt.Loading
import Inquest.Proofs.Rehearsal.Streaming
import Inquest.Proofs.Save.Accepting
import Inquest.Proofs.Save.Replaying
