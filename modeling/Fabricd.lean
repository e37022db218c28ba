import Fabricd.Tenancy
import Fabricd.Provenance
import Fabricd.Gate
import Fabricd.SaToken.Claims
import Fabricd.SaToken.Cache
import Fabricd.Protocol
import Fabricd.Backends.BoundParams
import Fabricd.Accounting
import Fabricd.Lockout
import Fabricd.Isolation
import Fabricd.Backends.Documents
import Fabricd.Backends.Rows
import Fabricd.Chronicle
import Fabricd.Budget
import Fabricd.Backends.Statements
import Fabricd.LateCalls
import Fabricd.Admission
import Fabricd.Listeners
import Fabricd.Framework.Journal
import Fabricd.Records
import Fabricd.Ledger
import Fabricd.Backends.Shapes
import Fabricd.Backends.Cursors
import Fabricd.Backends.MailPolicy
import Fabricd.Faults
import Fabricd.Backends.Redirected
import Fabricd.Backends.Outages
import Fabricd.Backends.Batches
import Fabricd.Backends.Credentials
import Fabricd.Counters
import Fabricd.Scrapes
import Fabricd.SaToken.Revocation
import Fabricd.SaToken.Redirected
import Fabricd.Backends.Stream
import Fabricd.Boot
import Fabricd.Bulkhead
import Fabricd.Permits
import Fabricd.Backends.Broker
import Fabricd.Backends.Writes
import Fabricd.Backends.Submissions
