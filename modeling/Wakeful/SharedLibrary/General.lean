import Wakeful.SharedLibrary.Names

/-! The names that the general library of the system offers. -/

namespace Wakeful.SharedLibrary

/-- Names of the general library that begin with a letter from a to f. -/
def generalAF : List String :=
  -- Capital letters come before small ones.
  names "a64l abort abs accept accept4 access acct addmntent addseverity adjtime adjtimex"
  ++ names "aio_cancel aio_cancel64 aio_error aio_error64 aio_fsync aio_fsync64 aio_init aio_read"
  ++ names "aio_read64 aio_return aio_return64 aio_suspend aio_suspend64 aio_write aio_write64"
  ++ names "alarm aligned_alloc alphasort alphasort64 arc4random arc4random_buf arc4random_uniform"
  ++ names "arch_prctl argp_err_exit_status argp_error argp_failure argp_help argp_parse"
  ++ names "argp_program_bug_address argp_program_version argp_program_version_hook argp_state_help"
  ++ names "argp_usage argz_add argz_add_sep argz_append argz_count argz_create argz_create_sep"
  ++ names "argz_delete argz_extract argz_insert argz_next argz_replace argz_stringify asctime"
  ++ names "asctime_r asprintf atof atoi atol atoll backtrace backtrace_symbols"
  ++ names "backtrace_symbols_fd basename bcmp bcopy bind bind_textdomain_codeset bindresvport"
  ++ names "bindtextdomain brk bsd_signal bsearch btowc bzero c16rtomb c32rtomb c8rtomb call_once"
  ++ names "calloc canonicalize_file_name capget capset catclose catgets catopen cfgetispeed"
  ++ names "cfgetospeed cfmakeraw cfsetispeed cfsetospeed cfsetspeed chdir chflags chmod chown"
  ++ names "chroot clearenv clearerr clearerr_unlocked clock clock_adjtime clock_getcpuclockid"
  ++ names "clock_getres clock_gettime clock_nanosleep clock_settime clone close close_range"
  ++ names "closedir closefrom closelog cnd_broadcast cnd_destroy cnd_init cnd_signal cnd_timedwait"
  ++ names "cnd_wait confstr connect copy_file_range copysign copysignf copysignl creat creat64"
  ++ names "ctermid ctime ctime_r cuserid daemon daylight dcgettext dcngettext delete_module"
  ++ names "dgettext difftime dirfd dirname div dl_iterate_phdr dladdr dladdr1 dlclose dlerror"
  ++ names "dlinfo dlmopen dlopen dlsym dlvsym dn_comp dn_expand dn_skipname dngettext dprintf"
  ++ names "drand48 drand48_r dup dup2 dup3 duplocale dysize eaccess ecvt ecvt_r endaliasent"
  ++ names "endfsent endgrent endhostent endmntent endnetent endnetgrent endprotoent endpwent"
  ++ names "endrpcent endservent endsgent endspent endttyent endusershell endutent endutxent"
  ++ names "environ envz_add envz_entry envz_get envz_merge envz_remove envz_strip epoll_create"
  ++ names "epoll_create1 epoll_ctl epoll_pwait epoll_pwait2 epoll_wait erand48 erand48_r err errno"
  ++ names "error error_at_line error_message_count error_one_per_line error_print_progname errx"
  ++ names "ether_aton ether_aton_r ether_hostton ether_line ether_ntoa ether_ntoa_r ether_ntohost"
  ++ names "euidaccess eventfd eventfd_read eventfd_write execl execle execlp execv execve execveat"
  ++ names "execvp execvpe exit explicit_bzero faccessat fallocate fallocate64 fanotify_init"
  ++ names "fanotify_mark fchdir fchflags fchmod fchmodat fchown fchownat fclose fcloseall fcntl"
  ++ names "fcntl64 fcvt fcvt_r fdatasync fdopen fdopendir feof feof_unlocked ferror"
  ++ names "ferror_unlocked fexecve fflush fflush_unlocked ffs ffsl ffsll fgetc fgetc_unlocked"
  ++ names "fgetgrent fgetgrent_r fgetpos fgetpos64 fgetpwent fgetpwent_r fgets fgets_unlocked"
  ++ names "fgetsgent fgetsgent_r fgetspent fgetspent_r fgetwc fgetwc_unlocked fgetws"
  ++ names "fgetws_unlocked fgetxattr fileno fileno_unlocked finite finitef finitel flistxattr"
  ++ names "flock flockfile fmemopen fmtmsg fnmatch fopen fopen64 fopencookie fork forkpty"
  ++ names "fpathconf fprintf fputc fputc_unlocked fputs fputs_unlocked fputwc fputwc_unlocked"
  ++ names "fputws fputws_unlocked fread fread_unlocked free freeaddrinfo freeifaddrs freelocale"
  ++ names "fremovexattr freopen freopen64 frexp frexpf frexpl fscanf fsconfig fseek fseeko"
  ++ names "fseeko64 fsetpos fsetpos64 fsetxattr fsmount fsopen fspick fstat fstat64 fstatat"
  ++ names "fstatat64 fstatfs fstatfs64 fstatvfs fstatvfs64 fsync ftell ftello ftello64 ftime ftok"
  ++ names "ftruncate ftruncate64 ftrylockfile fts64_children fts64_close fts64_open fts64_read"
  ++ names "fts64_set fts_children fts_close fts_open fts_read fts_set ftw ftw64 funlockfile"
  ++ names "futimens futimes futimesat fwide fwprintf fwrite fwrite_unlocked fwscanf"

/-- Names of the general library that begin with a letter from g to l. -/
def generalGL : List String :=
  -- Capital letters come before small ones.
  names "gai_cancel gai_error gai_strerror gai_suspend gcvt get_avphys_pages"
  ++ names "get_current_dir_name get_nprocs get_nprocs_conf get_phys_pages getaddrinfo"
  ++ names "getaddrinfo_a getaliasbyname getaliasbyname_r getaliasent getaliasent_r getauxval getc"
  ++ names "getc_unlocked getchar getchar_unlocked getcontext getcpu getcwd getdate getdate_err"
  ++ names "getdate_r getdelim getdents64 getdirentries getdirentries64 getdomainname getdtablesize"
  ++ names "getegid getentropy getenv geteuid getfsent getfsfile getfsspec getgid getgrent"
  ++ names "getgrent_r getgrgid getgrgid_r getgrnam getgrnam_r getgrouplist getgroups gethostbyaddr"
  ++ names "gethostbyaddr_r gethostbyname gethostbyname2 gethostbyname2_r gethostbyname_r"
  ++ names "gethostent gethostent_r gethostid gethostname getifaddrs getipv4sourcefilter getitimer"
  ++ names "getline getloadavg getlogin getlogin_r getmntent getmntent_r getnameinfo getnetbyaddr"
  ++ names "getnetbyaddr_r getnetbyname getnetbyname_r getnetent getnetent_r getnetgrent"
  ++ names "getnetgrent_r getopt getopt_long getopt_long_only getpagesize getpass getpeername"
  ++ names "getpgid getpgrp getpid getppid getpriority getprotobyname getprotobyname_r"
  ++ names "getprotobynumber getprotobynumber_r getprotoent getprotoent_r getpt getpw getpwent"
  ++ names "getpwent_r getpwnam getpwnam_r getpwuid getpwuid_r getrandom getresgid getresuid"
  ++ names "getrlimit getrlimit64 getrpcbyname getrpcbyname_r getrpcbynumber getrpcbynumber_r"
  ++ names "getrpcent getrpcent_r getrusage gets getservbyname getservbyname_r getservbyport"
  ++ names "getservbyport_r getservent getservent_r getsgent getsgent_r getsgnam getsgnam_r getsid"
  ++ names "getsockname getsockopt getsourcefilter getspent getspent_r getspnam getspnam_r"
  ++ names "getsubopt gettext gettid gettimeofday getttyent getttynam getuid getusershell getutent"
  ++ names "getutent_r getutid getutid_r getutline getutline_r getutmp getutmpx getutxent getutxid"
  ++ names "getutxline getw getwc getwc_unlocked getwchar getwchar_unlocked getwd getxattr glob"
  ++ names "glob64 glob_pattern_p globfree globfree64 gmtime gmtime_r gnu_dev_major gnu_dev_makedev"
  ++ names "gnu_dev_minor gnu_get_libc_release gnu_get_libc_version grantpt group_member gsignal"
  ++ names "gtty h_errlist h_nerr hasmntopt hcreate hcreate_r hdestroy hdestroy_r herror hsearch"
  ++ names "hsearch_r hstrerror htonl htons iconv iconv_close iconv_open if_freenameindex"
  ++ names "if_indextoname if_nameindex if_nametoindex imaxabs imaxdiv in6addr_any in6addr_loopback"
  ++ names "index inet6_opt_append inet6_opt_find inet6_opt_finish inet6_opt_get_val inet6_opt_init"
  ++ names "inet6_opt_next inet6_opt_set_val inet6_option_alloc inet6_option_append"
  ++ names "inet6_option_find inet6_option_init inet6_option_next inet6_option_space inet6_rth_add"
  ++ names "inet6_rth_getaddr inet6_rth_init inet6_rth_reverse inet6_rth_segments inet6_rth_space"
  ++ names "inet_addr inet_aton inet_lnaof inet_makeaddr inet_netof inet_network inet_nsap_addr"
  ++ names "inet_nsap_ntoa inet_ntoa inet_ntop inet_pton init_module initgroups initstate"
  ++ names "initstate_r innetgr inotify_add_watch inotify_init inotify_init1 inotify_rm_watch"
  ++ names "insque ioctl ioperm iopl iruserok iruserok_af isalnum isalnum_l isalpha isalpha_l"
  ++ names "isascii isatty isblank isblank_l iscntrl iscntrl_l isctype isdigit isdigit_l isfdtype"
  ++ names "isgraph isgraph_l isinf isinff isinfl islower islower_l isnan isnanf isnanl isprint"
  ++ names "isprint_l ispunct ispunct_l isspace isspace_l isupper isupper_l iswalnum iswalnum_l"
  ++ names "iswalpha iswalpha_l iswblank iswblank_l iswcntrl iswcntrl_l iswctype iswctype_l"
  ++ names "iswdigit iswdigit_l iswgraph iswgraph_l iswlower iswlower_l iswprint iswprint_l"
  ++ names "iswpunct iswpunct_l iswspace iswspace_l iswupper iswupper_l iswxdigit iswxdigit_l"
  ++ names "isxdigit isxdigit_l jrand48 jrand48_r kill killpg klogctl l64a labs lchmod lchown"
  ++ names "lckpwdf lcong48 lcong48_r ldexp ldexpf ldexpl ldiv lfind lgetxattr link linkat"
  ++ names "lio_listio lio_listio64 listen listxattr llabs lldiv llistxattr localeconv localtime"
  ++ names "localtime_r lockf lockf64 login login_tty logout logwtmp longjmp lrand48 lrand48_r"
  ++ names "lremovexattr lsearch lseek lseek64 lsetxattr lstat lstat64 lutimes"

/-- Names of the general library that begin with a letter from m to r. -/
def generalMR : List String :=
  -- Capital letters come before small ones.
  names "madvise makecontext mallinfo mallinfo2 malloc malloc_info malloc_stats malloc_trim"
  ++ names "malloc_usable_size mallopt mblen mbrlen mbrtoc16 mbrtoc32 mbrtoc8 mbrtowc mbsinit"
  ++ names "mbsnrtowcs mbsrtowcs mbstowcs mbtowc mcheck mcheck_check_all mcheck_pedantic mcount"
  ++ names "memalign memccpy memchr memcmp memcpy memfd_create memfrob memmem memmove mempcpy"
  ++ names "memrchr memset mincore mkdir mkdirat mkdtemp mkfifo mkfifoat mknod mknodat mkostemp"
  ++ names "mkostemp64 mkostemps mkostemps64 mkstemp mkstemp64 mkstemps mkstemps64 mktemp mktime"
  ++ names "mlock mlock2 mlockall mmap mmap64 modf modff modfl modify_ldt moncontrol monstartup"
  ++ names "mount mount_setattr move_mount mprobe mprotect mq_close mq_getattr mq_notify mq_open"
  ++ names "mq_receive mq_send mq_setattr mq_timedreceive mq_timedsend mq_unlink mrand48 mrand48_r"
  ++ names "mremap msgctl msgget msgrcv msgsnd msync mtrace mtx_destroy mtx_init mtx_lock"
  ++ names "mtx_timedlock mtx_trylock mtx_unlock munlock munlockall munmap muntrace"
  ++ names "name_to_handle_at nanosleep newlocale nftw nftw64 ngettext nice nl_langinfo"
  ++ names "nl_langinfo_l nrand48 nrand48_r ns_name_compress ns_name_ntop ns_name_pack ns_name_pton"
  ++ names "ns_name_skip ns_name_uncompress ns_name_unpack ntohl ntohs ntp_adjtime ntp_gettime"
  ++ names "ntp_gettimex obstack_alloc_failed_handler obstack_exit_failure obstack_free"
  ++ names "obstack_printf obstack_vprintf on_exit open open64 open_by_handle_at open_memstream"
  ++ names "open_tree open_wmemstream openat openat64 opendir openlog openpty optarg opterr optind"
  ++ names "optopt parse_printf_format pathconf pause pclose perror personality pidfd_getfd"
  ++ names "pidfd_open pidfd_send_signal pipe pipe2 pivot_root pkey_alloc pkey_free pkey_get"
  ++ names "pkey_mprotect pkey_set poll popen posix_fadvise posix_fadvise64 posix_fallocate"
  ++ names "posix_fallocate64 posix_madvise posix_memalign posix_openpt posix_spawn"
  ++ names "posix_spawn_file_actions_addchdir_np posix_spawn_file_actions_addclose"
  ++ names "posix_spawn_file_actions_addclosefrom_np posix_spawn_file_actions_adddup2"
  ++ names "posix_spawn_file_actions_addfchdir_np posix_spawn_file_actions_addopen"
  ++ names "posix_spawn_file_actions_addtcsetpgrp_np posix_spawn_file_actions_destroy"
  ++ names "posix_spawn_file_actions_init posix_spawnattr_destroy posix_spawnattr_getflags"
  ++ names "posix_spawnattr_getpgroup posix_spawnattr_getschedparam posix_spawnattr_getschedpolicy"
  ++ names "posix_spawnattr_getsigdefault posix_spawnattr_getsigmask posix_spawnattr_init"
  ++ names "posix_spawnattr_setflags posix_spawnattr_setpgroup posix_spawnattr_setschedparam"
  ++ names "posix_spawnattr_setschedpolicy posix_spawnattr_setsigdefault posix_spawnattr_setsigmask"
  ++ names "posix_spawnp ppoll prctl pread pread64 preadv preadv2 preadv64 preadv64v2 printf"
  ++ names "printf_size printf_size_info prlimit prlimit64 process_madvise process_mrelease"
  ++ names "process_vm_readv process_vm_writev profil program_invocation_name"
  ++ names "program_invocation_short_name pselect psiginfo psignal pthread_attr_destroy"
  ++ names "pthread_attr_getaffinity_np pthread_attr_getdetachstate pthread_attr_getguardsize"
  ++ names "pthread_attr_getinheritsched pthread_attr_getschedparam pthread_attr_getschedpolicy"
  ++ names "pthread_attr_getscope pthread_attr_getsigmask_np pthread_attr_getstack"
  ++ names "pthread_attr_getstackaddr pthread_attr_getstacksize pthread_attr_init"
  ++ names "pthread_attr_setaffinity_np pthread_attr_setdetachstate pthread_attr_setguardsize"
  ++ names "pthread_attr_setinheritsched pthread_attr_setschedparam pthread_attr_setschedpolicy"
  ++ names "pthread_attr_setscope pthread_attr_setsigmask_np pthread_attr_setstack"
  ++ names "pthread_attr_setstackaddr pthread_attr_setstacksize pthread_barrier_destroy"
  ++ names "pthread_barrier_init pthread_barrier_wait pthread_barrierattr_destroy"
  ++ names "pthread_barrierattr_getpshared pthread_barrierattr_init pthread_barrierattr_setpshared"
  ++ names "pthread_cancel pthread_clockjoin_np pthread_cond_broadcast pthread_cond_clockwait"
  ++ names "pthread_cond_destroy pthread_cond_init pthread_cond_signal pthread_cond_timedwait"
  ++ names "pthread_cond_wait pthread_condattr_destroy pthread_condattr_getclock"
  ++ names "pthread_condattr_getpshared pthread_condattr_init pthread_condattr_setclock"
  ++ names "pthread_condattr_setpshared pthread_create pthread_detach pthread_equal pthread_exit"
  ++ names "pthread_getaffinity_np pthread_getattr_default_np pthread_getattr_np"
  ++ names "pthread_getconcurrency pthread_getcpuclockid pthread_getname_np pthread_getschedparam"
  ++ names "pthread_getspecific pthread_join pthread_key_create pthread_key_delete pthread_kill"
  ++ names "pthread_mutex_clocklock pthread_mutex_consistent pthread_mutex_destroy"
  ++ names "pthread_mutex_getprioceiling pthread_mutex_init pthread_mutex_lock"
  ++ names "pthread_mutex_setprioceiling pthread_mutex_timedlock pthread_mutex_trylock"
  ++ names "pthread_mutex_unlock pthread_mutexattr_destroy pthread_mutexattr_getprioceiling"
  ++ names "pthread_mutexattr_getprotocol pthread_mutexattr_getpshared pthread_mutexattr_getrobust"
  ++ names "pthread_mutexattr_gettype pthread_mutexattr_init pthread_mutexattr_setprioceiling"
  ++ names "pthread_mutexattr_setprotocol pthread_mutexattr_setpshared pthread_mutexattr_setrobust"
  ++ names "pthread_mutexattr_settype pthread_once pthread_rwlock_clockrdlock"
  ++ names "pthread_rwlock_clockwrlock pthread_rwlock_destroy pthread_rwlock_init"
  ++ names "pthread_rwlock_rdlock pthread_rwlock_timedrdlock pthread_rwlock_timedwrlock"
  ++ names "pthread_rwlock_tryrdlock pthread_rwlock_trywrlock pthread_rwlock_unlock"
  ++ names "pthread_rwlock_wrlock pthread_rwlockattr_destroy pthread_rwlockattr_getkind_np"
  ++ names "pthread_rwlockattr_getpshared pthread_rwlockattr_init pthread_rwlockattr_setkind_np"
  ++ names "pthread_rwlockattr_setpshared pthread_self pthread_setaffinity_np"
  ++ names "pthread_setattr_default_np pthread_setcancelstate pthread_setcanceltype"
  ++ names "pthread_setconcurrency pthread_setname_np pthread_setschedparam pthread_setschedprio"
  ++ names "pthread_setspecific pthread_sigmask pthread_sigqueue pthread_spin_destroy"
  ++ names "pthread_spin_init pthread_spin_lock pthread_spin_trylock pthread_spin_unlock"
  ++ names "pthread_testcancel pthread_timedjoin_np pthread_tryjoin_np ptrace ptsname ptsname_r"
  ++ names "putc putc_unlocked putchar putchar_unlocked putenv putgrent putpwent puts putsgent"
  ++ names "putspent pututline pututxline putw putwc putwc_unlocked putwchar putwchar_unlocked"
  ++ names "pvalloc pwrite pwrite64 pwritev pwritev2 pwritev64 pwritev64v2 qecvt qecvt_r qfcvt"
  ++ names "qfcvt_r qgcvt qsort qsort_r quick_exit quotactl raise rand rand_r random random_r"
  ++ names "rawmemchr rcmd rcmd_af re_comp re_compile_fastmap re_compile_pattern re_exec re_match"
  ++ names "re_match_2 re_max_failures re_search re_search_2 re_set_registers re_set_syntax"
  ++ names "re_syntax_options read readahead readdir readdir64 readdir64_r readdir_r readlink"
  ++ names "readlinkat readv realloc reallocarray realpath reboot recv recvfrom recvmmsg recvmsg"
  ++ names "regcomp regerror regexec regfree register_printf_function register_printf_modifier"
  ++ names "register_printf_specifier register_printf_type remap_file_pages remove removexattr"
  ++ names "remque rename renameat renameat2 res_dnok res_hnok res_mailok res_mkquery res_nmkquery"
  ++ names "res_nquery res_nquerydomain res_nsearch res_nsend res_ownok res_query res_querydomain"
  ++ names "res_search res_send revoke rewind rewinddir rexec rexec_af rexecoptions rindex rmdir"
  ++ names "rpmatch rresvport rresvport_af ruserok ruserok_af ruserpass"

/-- Names of the general library that begin with a letter from s to z. -/
def generalSZ : List String :=
  -- Capital letters come before small ones.
  names "sbrk scalbn scalbnf scalbnl scandir scandir64 scandirat scandirat64 scanf"
  ++ names "sched_get_priority_max sched_get_priority_min sched_getaffinity sched_getcpu"
  ++ names "sched_getparam sched_getscheduler sched_rr_get_interval sched_setaffinity"
  ++ names "sched_setparam sched_setscheduler sched_yield secure_getenv seed48 seed48_r seekdir"
  ++ names "select sem_clockwait sem_close sem_destroy sem_getvalue sem_init sem_open sem_post"
  ++ names "sem_timedwait sem_trywait sem_unlink sem_wait semctl semget semop semtimedop send"
  ++ names "sendfile sendfile64 sendmmsg sendmsg sendto setaliasent setbuf setbuffer setcontext"
  ++ names "setdomainname setegid setenv seteuid setfsent setfsgid setfsuid setgid setgrent"
  ++ names "setgroups sethostent sethostid sethostname setipv4sourcefilter setitimer setjmp"
  ++ names "setlinebuf setlocale setlogin setlogmask setmntent setnetent setnetgrent setns setpgid"
  ++ names "setpgrp setpriority setprotoent setpwent setregid setresgid setresuid setreuid"
  ++ names "setrlimit setrlimit64 setrpcent setservent setsgent setsid setsockopt setsourcefilter"
  ++ names "setspent setstate setstate_r settimeofday setttyent setuid setusershell setutent"
  ++ names "setutxent setvbuf setxattr sgetsgent sgetsgent_r sgetspent sgetspent_r shm_open"
  ++ names "shm_unlink shmat shmctl shmdt shmget shutdown sigabbrev_np sigaction sigaddset"
  ++ names "sigaltstack sigandset sigblock sigdelset sigdescr_np sigemptyset sigfillset siggetmask"
  ++ names "sighold sigignore siginterrupt sigisemptyset sigismember siglongjmp signal signalfd"
  ++ names "sigorset sigpause sigpending sigprocmask sigqueue sigrelse sigreturn sigset sigsetmask"
  ++ names "sigstack sigsuspend sigtimedwait sigwait sigwaitinfo sleep snprintf sockatmark socket"
  ++ names "socketpair splice sprintf sprofil srand srand48 srand48_r srandom srandom_r sscanf"
  ++ names "ssignal stat stat64 statfs statfs64 statvfs statvfs64 statx stderr stdin stdout stpcpy"
  ++ names "stpncpy strcasecmp strcasecmp_l strcasestr strcat strchr strchrnul strcmp strcoll"
  ++ names "strcoll_l strcpy strcspn strdup strerror strerror_l strerror_r strerrordesc_np"
  ++ names "strerrorname_np strfmon strfmon_l strfromd strfromf strfromf128 strfromf32 strfromf32x"
  ++ names "strfromf64 strfromf64x strfroml strfry strftime strftime_l strlen strncasecmp"
  ++ names "strncasecmp_l strncat strncmp strncpy strndup strnlen strpbrk strptime strptime_l"
  ++ names "strrchr strsep strsignal strspn strstr strtod strtod_l strtof strtof128 strtof128_l"
  ++ names "strtof32 strtof32_l strtof32x strtof32x_l strtof64 strtof64_l strtof64x strtof64x_l"
  ++ names "strtof_l strtoimax strtok strtok_r strtol strtol_l strtold strtold_l strtoll strtoll_l"
  ++ names "strtoq strtoul strtoul_l strtoull strtoull_l strtoumax strtouq strverscmp strxfrm"
  ++ names "strxfrm_l stty swab swapcontext swapoff swapon swprintf swscanf symlink symlinkat sync"
  ++ names "sync_file_range syncfs syscall sysconf sysinfo syslog system sysv_signal tcdrain tcflow"
  ++ names "tcflush tcgetattr tcgetpgrp tcgetsid tcsendbreak tcsetattr tcsetpgrp tdelete tdestroy"
  ++ names "tee telldir tempnam textdomain tfind tgkill thrd_create thrd_current thrd_detach"
  ++ names "thrd_equal thrd_exit thrd_join thrd_sleep thrd_yield time timegm timelocal timer_create"
  ++ names "timer_delete timer_getoverrun timer_gettime timer_settime timerfd_create"
  ++ names "timerfd_gettime timerfd_settime times timespec_get timespec_getres timezone tmpfile"
  ++ names "tmpfile64 tmpnam tmpnam_r toascii tolower tolower_l toupper toupper_l towctrans"
  ++ names "towctrans_l towlower towlower_l towupper towupper_l truncate truncate64 tsearch"
  ++ names "tss_create tss_delete tss_get tss_set ttyname ttyname_r ttyslot twalk twalk_r tzname"
  ++ names "tzset ualarm ulckpwdf ulimit umask umount umount2 uname ungetc ungetwc unlink unlinkat"
  ++ names "unlockpt unsetenv unshare updwtmp updwtmpx uselocale usleep utime utimensat utimes"
  ++ names "utmpname utmpxname valloc vasprintf vdprintf verr verrx versionsort versionsort64 vfork"
  ++ names "vfprintf vfscanf vfwprintf vfwscanf vhangup vlimit vmsplice vprintf vscanf vsnprintf"
  ++ names "vsprintf vsscanf vswprintf vswscanf vsyslog vwarn vwarnx vwprintf vwscanf wait wait3"
  ++ names "wait4 waitid waitpid warn warnx wcpcpy wcpncpy wcrtomb wcscasecmp wcscasecmp_l wcscat"
  ++ names "wcschr wcschrnul wcscmp wcscoll wcscoll_l wcscpy wcscspn wcsdup wcsftime wcsftime_l"
  ++ names "wcslen wcsncasecmp wcsncasecmp_l wcsncat wcsncmp wcsncpy wcsnlen wcsnrtombs wcspbrk"
  ++ names "wcsrchr wcsrtombs wcsspn wcsstr wcstod wcstod_l wcstof wcstof128 wcstof128_l wcstof32"
  ++ names "wcstof32_l wcstof32x wcstof32x_l wcstof64 wcstof64_l wcstof64x wcstof64x_l wcstof_l"
  ++ names "wcstoimax wcstok wcstol wcstol_l wcstold wcstold_l wcstoll wcstoll_l wcstombs wcstoq"
  ++ names "wcstoul wcstoul_l wcstoull wcstoull_l wcstoumax wcstouq wcswcs wcswidth wcsxfrm"
  ++ names "wcsxfrm_l wctob wctomb wctrans wctrans_l wctype wctype_l wcwidth wmemchr wmemcmp"
  ++ names "wmemcpy wmemmove wmempcpy wmemset wordexp wordfree wprintf write writev wscanf"

/-- Names of the general library that are reserved for the system. -/
def reserved : List String :=
  -- They begin with a line.
  names "_Exit _Fork _IO_2_1_stderr_ _IO_2_1_stdin_ _IO_2_1_stdout_ _IO_adjust_column"
  ++ names "_IO_adjust_wcolumn _IO_default_doallocate _IO_default_finish _IO_default_pbackfail"
  ++ names "_IO_default_uflow _IO_default_xsgetn _IO_default_xsputn _IO_do_write _IO_doallocbuf"
  ++ names "_IO_fclose _IO_fdopen _IO_feof _IO_ferror _IO_fflush _IO_fgetpos _IO_fgetpos64"
  ++ names "_IO_fgets _IO_file_attach _IO_file_close _IO_file_close_it _IO_file_doallocate"
  ++ names "_IO_file_finish _IO_file_fopen _IO_file_init _IO_file_jumps _IO_file_open"
  ++ names "_IO_file_overflow _IO_file_read _IO_file_seek _IO_file_seekoff _IO_file_setbuf"
  ++ names "_IO_file_stat _IO_file_sync _IO_file_underflow _IO_file_write _IO_file_xsputn"
  ++ names "_IO_flockfile _IO_flush_all _IO_flush_all_linebuffered _IO_fopen _IO_fprintf _IO_fputs"
  ++ names "_IO_fread _IO_free_backup_area _IO_free_wbackup_area _IO_fsetpos _IO_fsetpos64"
  ++ names "_IO_ftell _IO_ftrylockfile _IO_funlockfile _IO_fwrite _IO_getc _IO_getline"
  ++ names "_IO_getline_info _IO_gets _IO_init _IO_init_marker _IO_init_wmarker _IO_iter_begin"
  ++ names "_IO_iter_end _IO_iter_file _IO_iter_next _IO_least_wmarker _IO_link_in _IO_list_all"
  ++ names "_IO_list_lock _IO_list_resetlock _IO_list_unlock _IO_marker_delta _IO_marker_difference"
  ++ names "_IO_padn _IO_peekc_locked _IO_popen _IO_printf _IO_proc_close _IO_proc_open _IO_putc"
  ++ names "_IO_puts _IO_remove_marker _IO_seekmark _IO_seekoff _IO_seekpos _IO_seekwmark _IO_setb"
  ++ names "_IO_setbuffer _IO_setvbuf _IO_sgetn _IO_sprintf _IO_sputbackc _IO_sputbackwc _IO_sscanf"
  ++ names "_IO_str_init_readonly _IO_str_init_static _IO_str_overflow _IO_str_pbackfail"
  ++ names "_IO_str_seekoff _IO_str_underflow _IO_sungetc _IO_sungetwc _IO_switch_to_get_mode"
  ++ names "_IO_switch_to_main_wget_area _IO_switch_to_wbackup_area _IO_switch_to_wget_mode"
  ++ names "_IO_un_link _IO_ungetc _IO_unsave_markers _IO_unsave_wmarkers _IO_vfprintf _IO_vsprintf"
  ++ names "_IO_wdefault_doallocate _IO_wdefault_finish _IO_wdefault_pbackfail _IO_wdefault_uflow"
  ++ names "_IO_wdefault_xsgetn _IO_wdefault_xsputn _IO_wdo_write _IO_wdoallocbuf _IO_wfile_jumps"
  ++ names "_IO_wfile_overflow _IO_wfile_seekoff _IO_wfile_sync _IO_wfile_underflow"
  ++ names "_IO_wfile_xsputn _IO_wmarker_delta _IO_wsetb __adjtimex __arch_prctl __argz_count"
  ++ names "__argz_next __argz_stringify __asprintf __asprintf_chk __assert __assert_fail"
  ++ names "__assert_perror_fail __backtrace __backtrace_symbols __backtrace_symbols_fd"
  ++ names "__bsd_getpgrp __bzero __check_rhosts_file __chk_fail __clone __close __cmsg_nxthdr"
  ++ names "__confstr_chk __connect __ctype_b_loc __ctype_get_mb_cur_max __ctype_tolower_loc"
  ++ names "__ctype_toupper_loc __curbrk __cxa_at_quick_exit __cxa_atexit __cxa_finalize"
  ++ names "__cxa_thread_atexit_impl __cyg_profile_func_enter __cyg_profile_func_exit __daylight"
  ++ names "__dcgettext __dgettext __dprintf_chk __dup2 __duplocale __endmntent __environ"
  ++ names "__errno_location __explicit_bzero_chk __fbufsize __fcntl __fdelt_chk __fdelt_warn"
  ++ names "__fentry__ __ffs __fgets_chk __fgets_unlocked_chk __fgetws_chk __fgetws_unlocked_chk"
  ++ names "__finite __finitef __finitel __flbf __fork __fpending __fprintf_chk __fpu_control"
  ++ names "__fpurge __fread_chk __fread_unlocked_chk __freadable __freading __freelocale"
  ++ names "__fsetlocking __fwprintf_chk __fwritable __fwriting __fxstat __fxstat64 __fxstatat"
  ++ names "__fxstatat64 __getauxval __getcwd_chk __getdelim __getdomainname_chk __getgroups_chk"
  ++ names "__gethostname_chk __getlogin_r_chk __getmntent_r __getpagesize __getpgid __getpid"
  ++ names "__gets_chk __gettimeofday __getwd_chk __gmtime_r __h_errno_location __isalnum_l"
  ++ names "__isalpha_l __isascii_l __isblank_l __iscntrl_l __isctype __isdigit_l __isgraph_l"
  ++ names "__isinf __isinff __isinfl __islower_l __isnan __isnanf __isnanf128 __isnanl"
  ++ names "__isoc99_fscanf __isoc99_fwscanf __isoc99_scanf __isoc99_sscanf __isoc99_swscanf"
  ++ names "__isoc99_vfscanf __isoc99_vfwscanf __isoc99_vscanf __isoc99_vsscanf __isoc99_vswscanf"
  ++ names "__isoc99_vwscanf __isoc99_wscanf __isprint_l __ispunct_l __isspace_l __isupper_l"
  ++ names "__iswalnum_l __iswalpha_l __iswblank_l __iswcntrl_l __iswctype __iswctype_l"
  ++ names "__iswdigit_l __iswgraph_l __iswlower_l __iswprint_l __iswpunct_l __iswspace_l"
  ++ names "__iswupper_l __iswxdigit_l __isxdigit_l __libc_allocate_rtsig __libc_calloc"
  ++ names "__libc_current_sigrtmax __libc_current_sigrtmin __libc_free __libc_freeres"
  ++ names "__libc_init_first __libc_mallinfo __libc_malloc __libc_mallopt __libc_memalign"
  ++ names "__libc_pvalloc __libc_realloc __libc_sa_len __libc_single_threaded __libc_stack_end"
  ++ names "__libc_start_main __libc_valloc __longjmp_chk __lseek __lxstat __lxstat64 __mbrlen"
  ++ names "__mbrtowc __mbsnrtowcs_chk __mbsrtowcs_chk __mbstowcs_chk __memcmpeq __memcpy_chk"
  ++ names "__memmove_chk __mempcpy __mempcpy_chk __memset_chk __monstartup __mq_open_2 __nanosleep"
  ++ names "__newlocale __nl_langinfo_l __nss_configure_lookup __nss_hostname_digits_dots"
  ++ names "__obstack_printf_chk __obstack_vprintf_chk __open __open64 __open64_2 __open_2"
  ++ names "__openat64_2 __openat_2 __overflow __pipe __poll __poll_chk __posix_getopt __ppoll_chk"
  ++ names "__pread64 __pread64_chk __pread_chk __printf_chk __printf_fp __profile_frequency"
  ++ names "__progname __progname_full __pthread_cleanup_routine __pthread_key_create"
  ++ names "__pthread_register_cancel __pthread_register_cancel_defer __pthread_unregister_cancel"
  ++ names "__pthread_unregister_cancel_restore __pthread_unwind_next __ptsname_r_chk __pwrite64"
  ++ names "__rawmemchr __rcmd_errstr __read __read_chk __readlink_chk __readlinkat_chk"
  ++ names "__realpath_chk __recv_chk __recvfrom_chk __register_atfork __res_init __res_nclose"
  ++ names "__res_ninit __res_randomid __res_state __rseq_flags __rseq_offset __rseq_size __sbrk"
  ++ names "__sched_cpualloc __sched_cpucount __sched_cpufree __sched_get_priority_max"
  ++ names "__sched_get_priority_min __sched_getparam __sched_getscheduler __sched_setscheduler"
  ++ names "__sched_yield __select __send __setmntent __setpgid __sigaction __signbit __signbitf"
  ++ names "__signbitl __sigpause __sigsetjmp __sigsuspend __snprintf_chk __sprintf_chk"
  ++ names "__stack_chk_fail __statfs __stpcpy __stpcpy_chk __stpncpy __stpncpy_chk __strcasecmp"
  ++ names "__strcasecmp_l __strcasestr __strcat_chk __strcoll_l __strcpy_chk __strdup __strerror_r"
  ++ names "__strfmon_l __strftime_l __strncasecmp_l __strncat_chk __strncpy_chk __strndup"
  ++ names "__strsep_g __strtod_internal __strtod_l __strtof128_internal __strtof_internal"
  ++ names "__strtof_l __strtok_r __strtol_internal __strtol_l __strtold_internal __strtold_l"
  ++ names "__strtoll_internal __strtoll_l __strtoul_internal __strtoul_l __strtoull_internal"
  ++ names "__strtoull_l __strverscmp __strxfrm_l __swprintf_chk __sysconf __syslog_chk"
  ++ names "__sysv_signal __timezone __tls_get_addr __toascii_l __tolower_l __toupper_l __towctrans"
  ++ names "__towctrans_l __towlower_l __towupper_l __ttyname_r_chk __tzname __uflow __underflow"
  ++ names "__uselocale __vasprintf_chk __vdprintf_chk __vfork __vfprintf_chk __vfscanf"
  ++ names "__vfwprintf_chk __vprintf_chk __vsnprintf __vsnprintf_chk __vsprintf_chk __vsscanf"
  ++ names "__vswprintf_chk __vsyslog_chk __vwprintf_chk __wait __waitpid __wcpcpy_chk"
  ++ names "__wcpncpy_chk __wcrtomb_chk __wcscasecmp_l __wcscat_chk __wcscoll_l __wcscpy_chk"
  ++ names "__wcsftime_l __wcsncasecmp_l __wcsncat_chk __wcsncpy_chk __wcsnrtombs_chk"
  ++ names "__wcsrtombs_chk __wcstod_internal __wcstod_l __wcstof128_internal __wcstof_internal"
  ++ names "__wcstof_l __wcstol_internal __wcstol_l __wcstold_internal __wcstold_l"
  ++ names "__wcstoll_internal __wcstoll_l __wcstombs_chk __wcstoul_internal __wcstoul_l"
  ++ names "__wcstoull_internal __wcstoull_l __wcsxfrm_l __wctomb_chk __wctrans_l __wctype_l"
  ++ names "__wmemcpy_chk __wmemmove_chk __wmempcpy_chk __wmemset_chk __woverflow __wprintf_chk"
  ++ names "__write __wuflow __wunderflow __x86_get_cpuid_feature_leaf __xmknod __xmknodat"
  ++ names "__xpg_basename __xpg_sigpause __xpg_strerror_r __xstat __xstat64 _dl_find_object"
  ++ names "_dl_mcount _dl_mcount_wrapper _dl_mcount_wrapper_check _environ _exit _flushlbf"
  ++ names "_libc_intl_domainname _longjmp _mcleanup _mcount _nl_default_dirname"
  ++ names "_nl_domain_bindings _nl_msg_cat_cntr _obstack_allocated_p _obstack_begin"
  ++ names "_obstack_begin_1 _obstack_free _obstack_memory_used _obstack_newchunk"
  ++ names "_pthread_cleanup_pop _pthread_cleanup_push _r_debug _res_hconf _setjmp _tolower"
  ++ names "_toupper"

/-- All names of the general library. -/
def general : List String :=
  -- Those of the loader belong to it.
  generalAF ++ generalGL ++ generalMR ++ generalSZ ++ reserved

end Wakeful.SharedLibrary
