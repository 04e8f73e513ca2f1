import Bifrost.Go
import Bifrost.Types
import Bifrost.Client.Runtime
import Bifrost.Client.Decode
import Bifrost.Client.Storage
import Bifrost.Client.Block
import Bifrost.Client.Account
import Bifrost.Client.Session
import Bifrost.Tx.Types
import Bifrost.Tx.Era
import Bifrost.Tx.Sign
import Bifrost.Tx.Builder
import Bifrost.Identity
