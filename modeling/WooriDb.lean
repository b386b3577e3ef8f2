import WooriDb.Runtime
import WooriDb.Collections
import WooriDb.Float
import WooriDb.Uuid
import WooriDb.Chrono
import WooriDb.Wql.Types
import WooriDb.Wql.Hash
import WooriDb.Wql.ToHash
import WooriDb.Wql.Id
import WooriDb.Query.Store
import WooriDb.Query.Controllers
import WooriDb.Query.Handler
import WooriDb.Auth.Controllers
import WooriDb.Auth.Run
import WooriDb.Auth.Interleaving
