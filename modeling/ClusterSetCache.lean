import ClusterSetCache.Objects
import ClusterSetCache.SubjectMap
import ClusterSetCache.Index
import ClusterSetCache.Rebuild
import ClusterSetCache.Handlers
import ClusterSetCache.List
import ClusterSetCache.Extractor
import ClusterSetCache.Authorize
import ClusterSetCache.Watcher
import ClusterSetCache.Notify
import ClusterSetCache.Mutex
import ClusterSetCache.WatcherLock
import ClusterSetCache.Interleaving
import ClusterSetCache.Lifecycle
import ClusterSetCache.Mapper
import ClusterSetCache.MapperOwned
import ClusterSetCache.MapperSpec
import ClusterSetCache.MapperLock
